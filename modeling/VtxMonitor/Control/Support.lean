import VtxMonitor.Processor.Procedure

/-!
# Control/Support — whether a processor can run the monitor

CPUID must report VMX, and IA32_FEATURE_CONTROL must either be unlocked, in which case bring-up
locks it with VMX allowed, or be locked with VMX allowed outside of SMX.
-/

namespace VtxMonitor.Support

/-- The bit of CPUID leaf 1, register ECX, that reports VMX. -/
def cpuidVmx : BitVec 32 := 0x20

/-- Checks whether VMX can be used, and if not, why. -/
def check : Procedure FeatureControlState := do
  if (← Program.request (.cpuid 1 0)).ecx &&& cpuidVmx = 0 then
    Program.report .vmxMissing
    throw .vmxNotSupported
  let control ← Program.request (.readMsr Msr.featureControl)
  if !FeatureControl.locked.isSetIn control then
    return .unlocked
  if !FeatureControl.vmxOutsideSmx.isSetIn control then
    Program.report .vmxLockedOff
    throw .vmxLockedOff
  return .enabled

/-- Whether VMX can be used. -/
def isSupported : Program Bool := do
  return (← check.run).isOk

/-- The revision identifier that VMCS and VMXON regions must carry. -/
def revisionId : Program (BitVec 32) := do
  let basic : VmxBasic := ⟨← Program.request (.readMsr Msr.vmxBasic)⟩
  return basic.revisionId.setWidth 32

end VtxMonitor.Support
