import VtxMonitor.Control.Flags
import VtxMonitor.Msr.Number
import VtxMonitor.Vmcs.Field

/-!
# Control/Capability — the settings a processor allows for each control word

Each of the five control words has a VMCS field and a capability MSR. The low half of the MSR holds
the bits that must be 1, the high half the bits that may be 1 (`AllowedSettings`); `adjust` forces a
requested word into them and `permits` tells whether a word needs no adjusting. IA32_VMX_BASIC says
which of two MSRs is in force.
-/

namespace VtxMonitor

open Text (Dump)

/-- The control words whose settings are limited by capability MSRs. -/
inductive VmxControl where
  | pinBased
  | primary
  | secondary
  | exit
  | entry
deriving DecidableEq

namespace VmxControl

/-- The VMCS field of a control word. -/
def field : VmxControl → Vmcs.Field
  | .pinBased => .pinBasedControls
  | .primary => .primaryControls
  | .secondary => .secondaryControls
  | .exit => .exitControls
  | .entry => .entryControls

/-- The name of a control word in messages. -/
def label : VmxControl → String
  | .pinBased => "Pin-based controls"
  | .primary => "Primary processor-based controls"
  | .secondary => "Secondary processor-based controls"
  | .exit => "VM-exit controls"
  | .entry => "VM-entry controls"

/-- The control words by short name. -/
def named : List (String × VmxControl) :=
  [("pin", .pinBased), ("primary", .primary), ("secondary", .secondary), ("exit", .exit),
    ("entry", .entry)]

/-- The dump of a control word's identity. -/
def dump : VmxControl → Dump
  | .pinBased => .name "PinBased"
  | .primary => .name "ProcessorBased"
  | .secondary => .name "ProcessorBased2"
  | .exit => .name "VmExit"
  | .entry => .name "VmEntry"

/-- The capability MSR of a control word, with or without the historical default bits. There is only
one for the secondary controls. -/
def capabilityMsr : VmxControl → (trueControls : Bool) → Msr.Number
  | .pinBased, false => Msr.pinBasedCtls
  | .pinBased, true => Msr.truePinBasedCtls
  | .primary, false => Msr.procBasedCtls
  | .primary, true => Msr.trueProcBasedCtls
  | .secondary, _ => Msr.procBasedCtls2
  | .exit, false => Msr.exitCtls
  | .exit, true => Msr.trueExitCtls
  | .entry, false => Msr.entryCtls
  | .entry, true => Msr.trueEntryCtls

end VmxControl

/-- The bits of a control word that must be 1 and those that may be 1. -/
structure AllowedSettings where
  allowed0 : BitVec 32
  allowed1 : BitVec 32
deriving DecidableEq

namespace AllowedSettings

/-- The settings that a capability MSR reports. -/
def ofCapability (capability : Word) : AllowedSettings :=
  ⟨capability.extractLsb' 0 32, capability.extractLsb' 32 32⟩

/-- A requested word with every mandatory bit set and then every unsupported bit cleared. -/
def adjust (settings : AllowedSettings) (requested : BitVec 32) : BitVec 32 :=
  (requested ||| settings.allowed0) &&& settings.allowed1

/-- Whether a word has every mandatory bit and no unsupported one. -/
def permits (settings : AllowedSettings) (value : BitVec 32) : Bool :=
  value &&& settings.allowed0 == settings.allowed0 && value &&& ~~~settings.allowed1 == 0

end AllowedSettings

/-- The content of IA32_VMX_BASIC. -/
structure VmxBasic where
  bits : Word

namespace VmxBasic

def revisionIdField : BitField := .number "revision_id" 0 31
def regionSizeField : BitField := .number "region_size" 32 13
def memoryTypeField : BitField := .number "memory_type" 50 4
def trueControlsField : BitField := .flag "true_controls" 55

/-- The fields of IA32_VMX_BASIC. -/
def layout : List BitField := [revisionIdField, regionSizeField, memoryTypeField, trueControlsField]

/-- The revision identifier of VMCS and VMXON regions, without the shadow-VMCS bit. -/
def revisionId (basic : VmxBasic) : BitVec 31 := revisionIdField.get basic.bits

/-- Whether the capability MSRs without default bits are in force. -/
def trueControls (basic : VmxBasic) : Bool := trueControlsField.test basic.bits

/-- The dump of IA32_VMX_BASIC. -/
def dump (basic : VmxBasic) : Dump := dumpLayout "VmxBasic" layout basic.bits

end VmxBasic

/-- What the capability check found in IA32_FEATURE_CONTROL. -/
inductive FeatureControlState where
  /-- Locked with VMX allowed outside of SMX. -/
  | enabled
  /-- Not locked yet; bring-up locks it with VMX allowed. -/
  | unlocked
deriving DecidableEq

end VtxMonitor
