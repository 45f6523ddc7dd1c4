import VtxMonitor.Exit.Scenario
import VtxMonitor.Machine.Basic
import VtxMonitor.Machine.EntryPoint
import VtxMonitor.Session

/-!
# Machine/Trial — VM-exits and interrupts that go through the entry points

`routines` supplies what the entry points call, on a session with a machine: the VM-exit routine
hands the exit to the virtual processor that the host stack points to, and stops the machine where
it cannot go on. `exitThroughEntry` and `interruptThroughEntry` deliver an event to an entry point
and observe how its code ends.
-/

namespace VtxMonitor

/-! ## Registers and frames in memory -/

/-- The offset of a register in the guest's registers, which lie in memory in the order of their
numbers. -/
def guestOffset (r : Register) : Word := r.number.setWidth 64 * 8

/-- The guest's registers at an address. -/
def GuestRegisters.load (memory : Memory) (address : Word) : GuestRegisters :=
  ⟨fun r => memory.load (address + guestOffset r)⟩

/-- Stores the guest's registers at an address. -/
def GuestRegisters.store (regs : GuestRegisters) (memory : Memory) (address : Word) : Memory :=
  Register.all.foldl (fun memory r => memory.store (address + guestOffset r) (regs.get r)) memory

/-- The trap frame at an address. -/
def TrapFrame.load (memory : Memory) (address : Word) : TrapFrame where
  vector := memory.load address
  errorCode := memory.load (address + 8)
  rip := memory.load (address + 16)
  cs := memory.load (address + 24)
  rflags := memory.load (address + 32)
  rsp := memory.load (address + 40)
  ss := memory.load (address + 48)

/-- The top of a virtual processor's host stack, in memory that is zero elsewhere. -/
def VcpuMemory.stackImage (memory : VcpuMemory) : Memory :=
  (Memory.zero.store memory.vcpuSlot memory.vcpuPointer).store memory.markerSlot memory.marker

/-! ## Routines -/

/-- The registers that a called routine may change. -/
def volatileRegisters : List Register := [.rax, .rcx, .rdx, .rsi, .rdi, .r8, .r9, .r10, .r11]

/-- The core behind a call: a routine leaves anything in the volatile registers, in the XMM
registers and in memory below the stack pointer; here it leaves what `scratch` has. Addresses wrap
around, so half of them count as below. -/
def Core.afterCall (scratch core : Core) : Core where
  gpr r := if r ∈ volatileRegisters then scratch.gpr r else core.gpr r
  xmm := scratch.xmm
  memory :=
    ⟨fun address =>
      if (address - core.rsp).msb then scratch.memory.byte address
      else core.memory.byte address⟩

namespace Session

/-- Executes privileged instructions of the monitor itself. -/
def execute (instructions : List PrivilegedInstruction) (session : Session Machine) :
    Session Machine :=
  { session with processor := session.processor.execute instructions }

/-- Reports something. -/
def report (diagnostic : Diagnostic) (session : Session Machine) : Session Machine :=
  { session with journal := session.journal.add diagnostic }

/-- Stops the machine for good. -/
def halt (session : Session Machine) : Session Machine := session.execute [.cli, .hlt]

/-- Stops the machine after a stop for a debugger. -/
def breakAndHalt (session : Session Machine) : Session Machine :=
  (session.execute [.int3]).halt

/-- Handles a VM-exit of the virtual processor at the address in `rdi`, with the guest's registers
at the address in `rsi`. Without a virtual processor, with a damaged stack or behind an error
nothing more can be done for the guest. -/
def handleExitRoutine (scratch core : Core) (session : Session Machine) :
    Option Core × Session Machine :=
  let address := core.gpr .rsi
  match session.vcpu with
  | none => (none, session.halt)
  | some vcpu =>
      if core.gpr .rdi ≠ vcpu.address ∨ address = 0 then (none, session.halt)
      else if core.memory.load vcpu.memory.markerSlot ≠ stackMarker then
        (none, (session.report (.stackCorrupted vcpu.index)).halt)
      else
        let ((result, regs), session) := session.run Machine.hardware
          (vcpu.handleExit.start (.load core.memory address))
        match result with
        | .error error =>
            (none, (session.report (.fatalExit vcpu.index error)).breakAndHalt)
        | .ok _ =>
            let core := Core.afterCall scratch core
            (some { core with memory := regs.store core.memory address }, session)

/-- Reports why VMRESUME failed and stops the machine. -/
def resumeFailedRoutine (session : Session Machine) : Session Machine :=
  let (error, session) := session.run Machine.hardware Vmcs.readInstructionError.run
  (session.report (.resumeFailed error)).breakAndHalt

/-- Handles an interrupt with a trap frame. An error is only reported. -/
def handleTrap (frame : TrapFrame) (session : Session Machine) : Session Machine :=
  let (result, session) := session.run Machine.hardware frame.handle.run
  match result with
  | .ok () => session
  | .error error => session.report (.interruptFailed frame.vector error)

/-- Handles an interrupt with the trap frame at the address in `rdi`. -/
def handleInterruptRoutine (core : Core) (session : Session Machine) : Session Machine :=
  let address := core.gpr .rdi
  if address = 0 then session else session.handleTrap (TrapFrame.load core.memory address)

/-- The routines behind the entry points and the machine's VMRESUME. -/
def routines (scratch : Core) : Environment Routine (Session Machine) where
  call routine core session :=
    match routine with
    | .handleExit => session.handleExitRoutine scratch core
    | .resumeFailed => (none, session.resumeFailedRoutine)
    | .handleInterrupt => (some (Core.afterCall scratch core), session.handleInterruptRoutine core)
  resume session := (session.processor.vmresume.isNone, session.execute [.vmresume])

end Session

/-! ## Trials -/

/-- How a trial ended. -/
inductive TrialOutcome where
  /-- The machine was stopped. -/
  | halted
  /-- The code went on outside of the monitor, with these registers; whether stack pointer and XMM
  registers are what they were before. -/
  | left (regs : GuestRegisters) (stackRestored xmmKept : Bool)

/-- The registers of a core without its stack pointer. -/
def Core.guestRegisters (core : Core) : GuestRegisters :=
  GuestRegisters.set ⟨core.gpr⟩ .rsp 0

/-- The content of an XMM register at the start of a trial. -/
def trialXmm (i : Fin 16) : BitVec 128 := BitVec.ofNat 128 (0x0123456789abcdef0011223344556677 + i)

/-- What called routines leave behind in a trial. -/
def trialScratch : Core where
  gpr _ := 0xbadbadbadbadbad0
  xmm _ := 0xbadbadbadbadbadbadbadbadbadbadb1
  memory := ⟨fun _ => 0xba⟩

/-- A core at the start of a trial. -/
def Core.forTrial (regs : GuestRegisters) (rsp : Word) (memory : Memory) : Core where
  gpr := (regs.set .rsp rsp).get
  xmm := trialXmm
  memory := memory

/-- Whether all XMM registers are what they were at the start of a trial. -/
def Core.keptXmm (core : Core) : Bool := xmmRegisters.all fun i => core.xmm i == trialXmm i

/-- The outcome of a trial in which the stack pointer was `rsp` at the start and is `left` at the
end. -/
def Core.outcome (core : Core) (rsp left : Word) : TrialOutcome :=
  .left core.guestRegisters (left == rsp) core.keptXmm

/-- The vectors for which the processor pushes an error code. -/
def vectorsWithErrorCode : List (BitVec 8) := [8, 10, 11, 12, 13, 14, 17, 21, 29, 30]

namespace Session

/-- Replaces the marker at the top of the virtual processor's host stack. -/
def setMarker (marker : Word) (session : Session Machine) : Session Machine :=
  { session with
    vcpu := session.vcpu.map fun vcpu => { vcpu with memory.marker := marker } }

/-- Lets a made-up VM-exit go through its entry point, on the host stack of the virtual processor.
-/
def exitThroughEntry (scenario : ExitScenario) (regs : GuestRegisters) (vcpu : Vcpu)
    (session : Session Machine) : TrialOutcome × Session Machine :=
  let session := { session with processor := session.processor.setFields scenario.fields }
  let core := Core.forTrial regs vcpu.memory.hostRsp vcpu.memory.stackImage
  match exitEntry.run (routines trialScratch) core session with
  | (.guest core, session) => (core.outcome vcpu.memory.hostRsp core.rsp, session)
  | (_, session) => (.halted, session)

/-- The stack pointer of the code that is interrupted in a trial. -/
def trialStack : Word := 0x7a5000010000

/-- Pushes what the processor pushes at an interrupt. -/
def pushInterruptFrame (core : Core) (frame : TrapFrame) (errorCode : Option Word) : Core :=
  let core := [frame.ss, frame.rsp, frame.rflags, frame.cs, frame.rip].foldl Core.push core
  match errorCode with
  | none => core
  | some errorCode => core.push errorCode

/-- Lets an interrupt go through the entry point of its vector. The stack pointer is `shift` below a
multiple of 16 when the processor delivers it. -/
def interruptThroughEntry (vector : BitVec 8) (frame : TrapFrame) (regs : GuestRegisters)
    (shift : Word) (session : Session Machine) : TrialOutcome × Session Machine :=
  let rsp := trialStack - shift
  let core := pushInterruptFrame (.forTrial regs rsp .zero) { frame with rsp }
    (if vector ∈ vectorsWithErrorCode then some frame.errorCode else none)
  match (interruptEntry vector).run (routines trialScratch) core session with
  | (.interrupted core, session) => (core.outcome rsp (core.atStack 24), session)
  | (_, session) => (.halted, session)

end Session

end VtxMonitor
