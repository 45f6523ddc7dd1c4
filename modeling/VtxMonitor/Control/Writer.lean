import VtxMonitor.Processor.Procedure

/-!
# Control/Writer — writing control words within what the processor allows

`writeAdjusted` forces the requested word into the allowed settings and writes the result;
`writeExact` writes the word as it is, or fails without writing when it is not permitted, because
the next VM-entry would fail.
-/

namespace VtxMonitor

/-- The settings that the processor allows for a control word. -/
def AllowedSettings.read (control : VmxControl) : Program AllowedSettings := do
  let basic : VmxBasic := ⟨← Program.request (.readMsr Msr.vmxBasic)⟩
  let capability ← Program.request (.readMsr (control.capabilityMsr basic.trueControls))
  return .ofCapability capability

namespace VmxControl

/-- A requested word, adjusted to what the processor allows. -/
def adjusted (control : VmxControl) (requested : BitVec 32) : Program (BitVec 32) := do
  return (← AllowedSettings.read control).adjust requested

/-- Reports the requested bits that a word lacks. -/
def reportUnsupported (control : VmxControl) (requested value : BitVec 32) : Program Unit := do
  if value &&& requested ≠ requested then
    Program.report (.unsupportedBits control (requested &&& ~~~value))

/-- Adjusts a word, writes it and returns what was written. Requested bits that the processor does
not support are reported. -/
def writeAdjusted (control : VmxControl) (requested : BitVec 32) : Procedure (BitVec 32) := do
  let value ← control.adjusted requested
  control.reportUnsupported requested value
  Program.report (.controlAdjusted control value requested)
  Vmcs.write control.field (value.setWidth 64)
  return value

/-- Writes a word as it is, if the processor permits it. -/
def writeExact (control : VmxControl) (value : BitVec 32) : Procedure Unit := do
  let settings ← AllowedSettings.read control
  if settings.permits value then
    Vmcs.write control.field (value.setWidth 64)
  else
    Program.report (.controlRefused control value settings)
    throw (.invalidControlValue control.label (value.setWidth 64) (settings.allowed1.setWidth 64))

/-- The control word in the current VMCS. -/
def read (control : VmxControl) : Procedure (BitVec 32) := do
  return (← Vmcs.read control.field).setWidth 32

end VmxControl

end VtxMonitor
