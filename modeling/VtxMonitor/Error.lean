import VtxMonitor.Processor.Registers
import VtxMonitor.Vmcs.Field
import VtxMonitor.Vmcs.InstructionError

/-!
# Error — why an operation of the monitor fails

One constructor per cause. `message` is the wording for an operator, `dump` the structured form.
-/

namespace VtxMonitor

open Text (Dump hex decimal)

/-- The causes of failure. -/
inductive Error where
  | vmxNotSupported
  | vmxLockedOff
  | alreadyVirtualized (index : BitVec 32)
  | unmappedAddress (address : Word)
  | misalignedRegion (region : String) (address : Word)
  | vmxInstruction (instruction : String) (fail : VmFail)
  | vmcsAccess (field : Vmcs.Field) (fail : VmFail)
  | invalidControlValue (control : String) (value allowed : Word)
  | launchFailed (error : InstructionError)
  | vmEntryFailure (reason : BitVec 32)
  | unhandledVmExit (reason : BitVec 16) (rip : Word)
  /-- The guest's next instruction pointer does not fit into 64 bits. -/
  | ripOverflow
deriving DecidableEq

namespace Error

/-- The wording of an error. -/
def message : Error → String
  | vmxNotSupported => "Processor does not support VMX"
  | vmxLockedOff => "VMX is disabled and locked in IA32_FEATURE_CONTROL"
  | alreadyVirtualized index =>
      "Processor " ++ decimal index.toNat ++ " is already virtualized"
  | unmappedAddress address =>
      "Failed to translate " ++ hex address ++ " to a physical address"
  | misalignedRegion region address =>
      region ++ " region at " ++ hex address ++ " is not 4 KiB aligned"
  | vmxInstruction instruction fail => instruction ++ " failed: " ++ fail.label
  | vmcsAccess field fail =>
      "Failed to read or write VMCS field " ++ hex field ++ ": " ++ fail.label
  | invalidControlValue control value allowed =>
      control ++ " value " ++ hex value ++ " violates the allowed bits " ++ hex allowed
  | launchFailed error => "VMLAUNCH failed: " ++ error.message
  | vmEntryFailure reason => "VM-entry failed with exit reason " ++ hex reason
  | unhandledVmExit reason rip => "Unhandled VM-exit " ++ hex reason ++ " at rip " ++ hex rip
  | ripOverflow => "attempt to add with overflow"

/-- The dump of an error. -/
def dump : Error → Dump
  | vmxNotSupported => .name "VmxNotSupported"
  | vmxLockedOff => .name "VmxLockedOff"
  | alreadyVirtualized index => .record "AlreadyVirtualized" [("index", .number index.toNat)]
  | unmappedAddress address =>
      .record "AddressTranslation" [("address", .number address.toNat)]
  | misalignedRegion region address =>
      .record "MisalignedRegion" [("region", .quoted region), ("address", .number address.toNat)]
  | vmxInstruction instruction fail =>
      .record "VmxInstruction" [("instruction", .quoted instruction), ("fail", .name fail.label)]
  | vmcsAccess field fail =>
      .record "VmcsAccess" [("field", .number field.toNat), ("fail", .name fail.label)]
  | invalidControlValue control value allowed =>
      .record "InvalidControlValue"
        [("control", .quoted control), ("value", .number value.toNat),
          ("allowed", .number allowed.toNat)]
  | launchFailed error => .record "LaunchFailed" [("error", error.dump)]
  | vmEntryFailure reason => .record "VmEntryFailure" [("reason", .number reason.toNat)]
  | unhandledVmExit reason rip =>
      .record "UnhandledVmExit" [("reason", .number reason.toNat), ("rip", .number rip.toNat)]
  | ripOverflow => .name "RipOverflow"

end Error

end VtxMonitor
