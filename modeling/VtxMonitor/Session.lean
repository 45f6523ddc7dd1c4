import VtxMonitor.Platform

/-!
# Session — one processor, one guest and at most one virtual processor

A `Session` keeps everything that lives while a single processor is exercised: its state, the
journal, the arena, a registry with intercepts for new virtual processors, the current virtual
processor and the guest's registers. The operations here run programs on the processor and put
what they change back into the session.
-/

namespace VtxMonitor

/-- A processor of state `σ` with what belongs to it. -/
structure Session (σ : Type) where
  processor : σ
  journal : Journal
  arena : Arena := {}
  registry : ExitHandlers := .defaults
  intercepts : MsrIntercepts := {}
  vcpu : Option Vcpu := none
  registers : GuestRegisters := .zero

namespace Session

variable {σ α : Type}

/-- Runs a program on the processor. -/
def run (hw : Hardware σ) (program : Program α) (session : Session σ) : α × Session σ :=
  let (value, processor, journal) := hw.runLogged program session.processor session.journal
  (value, { session with processor, journal })

/-- Runs a program that owns the guest's registers. -/
def emulate (hw : Hardware σ) (emulation : Emulation α) (session : Session σ) :
    Except Error α × Session σ :=
  let ((outcome, registers), session) := session.run hw (emulation.start session.registers)
  (outcome, { session with registers })

/-- Runs a program that owns the virtual processor, if there is one. -/
def onVcpu (hw : Hardware σ) (action : Owned Vcpu α) (session : Session σ) :
    Option (α × Session σ) :=
  session.vcpu.map fun vcpu =>
    let ((value, vcpu), session) := session.run hw (StateT.run action vcpu)
    (value, { session with vcpu := some vcpu })

/-- Gives the virtual processor up. -/
def dropVcpu (hw : Hardware σ) (session : Session σ) : Session σ :=
  match session.vcpu with
  | none => session
  | some vcpu => { (session.run hw vcpu.release).2 with vcpu := none }

/-- Takes a slot for memory that belongs to no virtual processor. -/
def newMemory (session : Session σ) : VcpuMemory × Session σ :=
  let (base, arena) := session.arena.allocate
  (.fresh base, { session with arena })

/-- Puts a new virtual processor in place of the current one. -/
def replaceVcpu (hw : Hardware σ) (index : BitVec 32) (handlers : ExitHandlers)
    (intercepts : MsrIntercepts) (session : Session σ) : Session σ :=
  let session := session.dropVcpu hw
  let (vcpu, arena) := Vcpu.allocate index handlers intercepts session.arena
  { session with
    vcpu := some vcpu
    arena := arena
    journal := session.journal.add (.creatingVcpu index) }

/-- A new virtual processor with the session's registry and intercepts. -/
def newVcpu (hw : Hardware σ) (index : BitVec 32) (session : Session σ) : Session σ :=
  session.replaceVcpu hw index session.registry session.intercepts

/-- A new virtual processor with the default handlers and no intercepts. -/
def newDefaultVcpu (hw : Hardware σ) (index : BitVec 32) (session : Session σ) : Session σ :=
  session.replaceVcpu hw index .defaults {}

/-- Registers a handler with the session's registry and tells whether it took the place of
another. -/
def insertHandler (reason : BasicExitReason) (handler : ExitHandler)
    (session : Session σ) : Bool × Session σ :=
  (session.registry.contains reason,
    { session with
      registry := session.registry.insert reason handler
      journal := session.journal.addAll (session.registry.insertRemarks reason) })

/-- Replaces some of the guest's registers. -/
def setRegisters (values : List (Register × Word)) (session : Session σ) : Session σ :=
  { session with registers := session.registers.setAll values }

/-- The lines that were collected, and the session with an empty journal. -/
def takeLines (session : Session σ) : Array String × Session σ :=
  (session.journal.lines, { session with journal := .empty session.journal.threshold })

end Session

end VtxMonitor
