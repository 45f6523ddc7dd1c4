import VtxMonitor.Word.Field

/-!
# Processor/Registers — what the monitor reads from a processor besides MSRs

Control registers, the CPUID answer, the descriptor-table registers and the loaded selectors.
-/

namespace VtxMonitor

/-- The control registers that the monitor reads or writes. -/
inductive ControlRegister where
  | cr0
  | cr3
  | cr4
deriving DecidableEq

/-- The name of a control register. -/
def ControlRegister.label : ControlRegister → String
  | .cr0 => "cr0"
  | .cr3 => "cr3"
  | .cr4 => "cr4"

/-- The four registers that CPUID returns. -/
structure CpuidResult where
  eax : BitVec 32 := 0
  ebx : BitVec 32 := 0
  ecx : BitVec 32 := 0
  edx : BitVec 32 := 0
deriving DecidableEq

/-- The content of GDTR or IDTR: where a descriptor table starts and its last valid offset. -/
structure TableRegister where
  base : Word := 0
  limit : BitVec 16 := 0
deriving DecidableEq

/-- The selectors that are loaded. -/
structure SegmentSelectors where
  cs : BitVec 16 := 0
  ss : BitVec 16 := 0
  ds : BitVec 16 := 0
  es : BitVec 16 := 0
  fs : BitVec 16 := 0
  gs : BitVec 16 := 0
  tr : BitVec 16 := 0
  ldtr : BitVec 16 := 0
deriving DecidableEq

/-- CR4.VMXE, which must be set in VMX operation. -/
def cr4Vmxe : Word := 0x2000

/-- RFLAGS.IF: maskable interrupts are delivered. -/
def rflagsIf : Word := 0x200

/-- The two ways in which a VMX instruction reports failure. -/
inductive VmFail where
  /-- Failure with a current VMCS, in which the reason is recorded. -/
  | valid
  /-- Failure without a current VMCS. -/
  | invalid
deriving DecidableEq

/-- The name of a failure. -/
def VmFail.label : VmFail → String
  | .valid => "VmFailValid"
  | .invalid => "VmFailInvalid"

end VtxMonitor
