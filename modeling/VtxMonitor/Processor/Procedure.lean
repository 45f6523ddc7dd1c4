import VtxMonitor.Processor.Program

/-!
# Processor/Procedure — programs that may fail

A `Procedure` is a program that ends with a value or an `Error`. `Owned σ` adds a record of the
monitor that the program may change; a change made before a failure stays. The operations that
report failure through `VmFail` become procedures by naming the error it stands for
(`Procedure.attempt`).
-/

namespace VtxMonitor

/-- A program that ends with a value or an error. -/
abbrev Procedure (α : Type) := ExceptT Error Program α

/-- A program that owns a record of type `σ`. -/
abbrev Owned (σ : Type) := StateT σ Program

/-- A program that owns a record and may fail; what it changed before failing stays changed. -/
abbrev Fallible (σ α : Type) := ExceptT Error (Owned σ) α

/-- A procedure is also one that owns a record and leaves it alone. -/
instance {σ : Type} : MonadLift (ExceptT Error Program) (ExceptT Error (StateT σ Program)) where
  monadLift procedure := ExceptT.mk (StateT.lift procedure.run)

namespace Fallible

/-- Runs a procedure that owns a record: the outcome, and the record as it is left. -/
def start {σ α : Type} (procedure : Fallible σ α) (record : σ) : Program (Except Error α × σ) :=
  StateT.run (ExceptT.run procedure) record

end Fallible

namespace Procedure

variable {α : Type}

/-- Makes a failure report an error. -/
def attempt (cause : VmFail → Error) (program : Program (Except VmFail α)) : Procedure α :=
  ExceptT.mk do return (← program).mapError cause

/-- The value of a procedure, or `fallback` if it fails. -/
def orElse (fallback : α) (procedure : Procedure α) : Program α := do
  match ← procedure.run with
  | .ok value => return value
  | .error _ => return fallback

/-- The physical address of a host virtual address. -/
def physicalAddress (address : Word) : Procedure Word := do
  match ← Program.request (.physicalAddress address) with
  | some physical => return physical
  | none => throw (.unmappedAddress address)

end Procedure

namespace Vmcs

/-- Reads a field of the current VMCS. -/
def read (field : Field) : Procedure Word :=
  .attempt (.vmcsAccess field) (.request (.vmread field))

/-- Writes a field of the current VMCS. -/
def write (field : Field) (value : Word) : Procedure Unit :=
  .attempt (.vmcsAccess field) (.request (.vmwrite field (.word value)))

/-- Lets a field of the current VMCS lead to the VM-exit entry point. -/
def writeExitEntryPoint (field : Field) : Procedure Unit :=
  .attempt (.vmcsAccess field) (.request (.vmwrite field .exitEntryPoint))

/-- Writes fields in order and stops at the first failure. -/
def writeAll : List (Field × Word) → Procedure Unit
  | [] => pure ()
  | (field, value) :: rest => do
      write field value
      writeAll rest

/-- The error that the last failed VMX instruction recorded in the current VMCS. -/
def readInstructionError : Procedure InstructionError := do
  return .ofCode ((← read .instructionError).setWidth 32)

end Vmcs

end VtxMonitor
