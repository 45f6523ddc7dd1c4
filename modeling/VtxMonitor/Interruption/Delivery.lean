import VtxMonitor.Control.Writer

/-!
# Interruption/Delivery — events that reach the guest

Events are queued in the VM-entry interruption information. A non-maskable interrupt cannot always
be delivered at once: it is remembered as NMI-window exiting, a bit of the primary control word,
and injected when the guest can take it. Interrupts that arrive while the monitor itself runs are
ignored apart from the non-maskable one, which belongs to the guest.
-/

namespace VtxMonitor

/-- What the entry points of the host push before they call the interrupt handler. -/
@[ext]
structure TrapFrame where
  vector : Word := 0
  /-- Zero for vectors that have no error code. -/
  errorCode : Word := 0
  rip : Word := 0
  cs : Word := 0
  rflags : Word := 0
  rsp : Word := 0
  ss : Word := 0
deriving DecidableEq

/-- The event that caused the last exit. -/
def ExitInterruption.read : Procedure ExitInterruption := do
  return ⟨(← Vmcs.read .exitInterruption).setWidth 32⟩

/-- Queues an event for the next VM-entry. The error code is written only if the event delivers
one. -/
def EventInjection.inject (event : EventInjection) (errorCode : BitVec 32) : Procedure Unit := do
  if event.deliverErrorCode then
    Vmcs.write .entryErrorCode (errorCode.setWidth 64)
  Vmcs.write .entryInterruption (event.bits.setWidth 64)

namespace NmiWindow

/-- A primary control word with NMI-window exiting turned on or off. -/
def update (enabled : Bool) (primary : BitVec 32) : BitVec 32 :=
  if enabled then primary ||| PrimaryControls.nmiWindowExiting.mask
  else primary &&& ~~~PrimaryControls.nmiWindowExiting.mask

/-- Turns NMI-window exiting on or off. -/
def setExiting (enabled : Bool) : Procedure Unit := do
  let primary ← VmxControl.read .primary
  VmxControl.writeExact .primary (update enabled primary)

/-- Remembers a non-maskable interrupt: the guest exits as soon as it can receive one. -/
def queueNmi : Procedure Unit := setExiting true

/-- Delivers the remembered interrupt and closes the window. -/
def deliver : Procedure Unit := do
  EventInjection.nmi.inject 0
  setExiting false

end NmiWindow

namespace ExitInterruption

/-- Queues the event that caused an exit again. -/
def queueAgain (info : ExitInterruption) (errorCode : BitVec 32) : Procedure Unit := do
  Program.report (.reinjecting info.vector errorCode)
  (EventInjection.reflect info).inject errorCode

/-- Delivers the event that caused an exit again, together with the length of the instruction that
raised it. -/
def reinject (info : ExitInterruption) (errorCode : BitVec 32) : Procedure Unit := do
  if (EventInjection.reflect info).needsInstructionLength then
    Vmcs.write .entryInstructionLength (← Vmcs.read .exitInstructionLength)
  info.queueAgain errorCode

/-- Delivers the exception that caused an exit again, or remembers the non-maskable interrupt that
did. -/
def forward (info : ExitInterruption) : Procedure Unit := do
  if info.isNmi then
    Program.report .queueingNmi
    NmiWindow.queueNmi
  else
    let errorCode ← if info.errorCodeValid then
        pure ((← Vmcs.read .exitErrorCode).setWidth 32)
      else
        pure 0
    info.reinject errorCode

end ExitInterruption

/-- Handles an interrupt that arrived while the monitor ran. -/
def TrapFrame.handle (frame : TrapFrame) : Procedure Unit := do
  if frame.vector = nmiVector.setWidth 64 then
    NmiWindow.queueNmi
  else
    Program.report (.ignoringInterrupt frame.vector frame.rip)

end VtxMonitor
