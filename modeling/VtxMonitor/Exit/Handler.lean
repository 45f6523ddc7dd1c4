import VtxMonitor.Processor.Procedure

/-!
# Exit/Handler — routing VM-exits to handlers

A handler is a fallible program that owns the guest's registers. An `ExitHandlers` registry maps
basic exit reasons to handlers; `dispatch` runs the one for the exit that just happened and then
skips the instruction that caused it, if the handler asks for that. Failed VM-entries and exits
without a handler are errors and run no handler.
-/

namespace VtxMonitor

/-- How the guest goes on after an exit. -/
inductive ExitType where
  /-- Behind the instruction that caused the exit. -/
  | incrementRip
  /-- At the same instruction. -/
  | resume
deriving DecidableEq

/-- The name of an exit type. -/
def ExitType.label : ExitType → String
  | .incrementRip => "IncrementRip"
  | .resume => "Continue"

/-- A program that emulates something for the guest: it owns the guest's registers. -/
abbrev Emulation (α : Type) := Fallible GuestRegisters α

/-- A handler for a VM-exit. -/
abbrev ExitHandler := Emulation ExitType

/-- The handlers by the basic exit reason they are registered for. -/
structure ExitHandlers where
  get? : BasicExitReason → Option ExitHandler

namespace ExitHandlers

/-- The registry without handlers. -/
def empty : ExitHandlers := ⟨fun _ => none⟩

/-- Registers a handler for a reason, in place of the current one. -/
def insert (reason : BasicExitReason) (handler : ExitHandler) (handlers : ExitHandlers) :
    ExitHandlers :=
  ⟨fun other => if other = reason then some handler else handlers.get? other⟩

/-- Whether a handler is registered for a reason. -/
def contains (handlers : ExitHandlers) (reason : BasicExitReason) : Bool :=
  (handlers.get? reason).isSome

/-- What there is to report about registering a handler: it may take the place of another one. -/
def insertRemarks (reason : BasicExitReason) (handlers : ExitHandlers) : List Diagnostic :=
  if handlers.contains reason then [.handlerReplaced reason] else []

/-- Registers handlers in order. -/
def insertAll (registrations : List (BasicExitReason × ExitHandler)) (handlers : ExitHandlers) :
    ExitHandlers :=
  registrations.foldl (fun handlers entry => handlers.insert entry.1 entry.2) handlers

/-- What there is to report about registering handlers in order. -/
def insertAllRemarks :
    List (BasicExitReason × ExitHandler) → ExitHandlers → List Diagnostic
  | [], _ => []
  | (reason, handler) :: rest, handlers =>
      handlers.insertRemarks reason ++ insertAllRemarks rest (handlers.insert reason handler)

end ExitHandlers

/-- The reason of the exit that just happened. -/
def ExitReason.read : Procedure ExitReason := do
  return ⟨(← Vmcs.read .exitReason).setWidth 32⟩

/-- Moves the guest behind the instruction that caused the exit. An address beyond 64 bits is an
error. -/
def advanceRip : Procedure Unit := do
  let rip ← Vmcs.read .guestRip
  let length ← Vmcs.read .exitInstructionLength
  if rip.uaddOverflow length then
    throw .ripOverflow
  else
    Vmcs.write .guestRip (rip + length)

/-- Runs a handler and then skips the instruction that caused the exit, if the handler asks for
it. -/
def ExitHandlers.serve (handler : ExitHandler) : ExitHandler := do
  let exitType ← handler
  if exitType = .incrementRip then
    advanceRip
  return exitType

/-- Handles the exit that just happened. -/
def ExitHandlers.dispatch (handlers : ExitHandlers) : Emulation ExitType := do
  let reason ← ExitReason.read
  if reason.entryFailure then
    Program.report (.entryFailed reason)
    throw (.vmEntryFailure reason.bits)
  match handlers.get? reason.basic with
  | none => do
      let rip ← Procedure.orElse 0 (Vmcs.read .guestRip)
      let qualification ← Procedure.orElse 0 (Vmcs.read .exitQualification)
      Program.report (.unhandledExit reason.basic rip qualification (← get))
      throw (.unhandledVmExit reason.basic.code rip)
  | some handler => do
      Program.report (.handlingExit reason.basic)
      serve handler

end VtxMonitor
