import VtxMonitor.Text.Dump

/-!
# Vmcs/InstructionError — the numbers a failed VMX instruction records

The VM-instruction-error field holds a number; `ofCode` names it and `code` gives the number back.
The numbers 14, 21, 27 and everything above 28 have no assigned meaning and stay `unknown`.
-/

namespace VtxMonitor

open Text (Dump)

/-- Why the last VMX instruction failed. -/
inductive InstructionError where
  | notAvailable
  | vmcallInVmxRoot
  | vmclearInvalidAddress
  | vmclearVmxonPointer
  | vmlaunchNonClearVmcs
  | vmresumeNonLaunchedVmcs
  | vmresumeAfterVmxoff
  | vmentryInvalidControlFields
  | vmentryInvalidHostState
  | vmptrldInvalidAddress
  | vmptrldVmxonPointer
  | vmptrldIncorrectRevision
  | unsupportedVmcsComponent
  | vmwriteReadOnlyComponent
  | vmxonInVmxRoot
  | vmentryInvalidExecutiveVmcsPointer
  | vmentryNonLaunchedExecutiveVmcs
  | vmentryExecutiveVmcsPointerNotVmxon
  | vmcallNonClearVmcs
  | vmcallInvalidExitControls
  | vmcallIncorrectMsegRevision
  | vmxoffUnderDualMonitor
  | vmcallInvalidSmmMonitorFeatures
  | vmentryInvalidExecutionControls
  | vmentryEventsBlockedByMovSs
  | invalidInveptInvvpidOperand
  | unknown (code : BitVec 32)
deriving DecidableEq

namespace InstructionError

/-- The meaning of an error number. -/
def ofCode (code : BitVec 32) : InstructionError :=
  match code.toNat with
  | 0 => .notAvailable
  | 1 => .vmcallInVmxRoot
  | 2 => .vmclearInvalidAddress
  | 3 => .vmclearVmxonPointer
  | 4 => .vmlaunchNonClearVmcs
  | 5 => .vmresumeNonLaunchedVmcs
  | 6 => .vmresumeAfterVmxoff
  | 7 => .vmentryInvalidControlFields
  | 8 => .vmentryInvalidHostState
  | 9 => .vmptrldInvalidAddress
  | 10 => .vmptrldVmxonPointer
  | 11 => .vmptrldIncorrectRevision
  | 12 => .unsupportedVmcsComponent
  | 13 => .vmwriteReadOnlyComponent
  | 15 => .vmxonInVmxRoot
  | 16 => .vmentryInvalidExecutiveVmcsPointer
  | 17 => .vmentryNonLaunchedExecutiveVmcs
  | 18 => .vmentryExecutiveVmcsPointerNotVmxon
  | 19 => .vmcallNonClearVmcs
  | 20 => .vmcallInvalidExitControls
  | 22 => .vmcallIncorrectMsegRevision
  | 23 => .vmxoffUnderDualMonitor
  | 24 => .vmcallInvalidSmmMonitorFeatures
  | 25 => .vmentryInvalidExecutionControls
  | 26 => .vmentryEventsBlockedByMovSs
  | 28 => .invalidInveptInvvpidOperand
  | _ => .unknown code

/-- The number of an error. -/
def code : InstructionError → BitVec 32
  | .notAvailable => 0
  | .vmcallInVmxRoot => 1
  | .vmclearInvalidAddress => 2
  | .vmclearVmxonPointer => 3
  | .vmlaunchNonClearVmcs => 4
  | .vmresumeNonLaunchedVmcs => 5
  | .vmresumeAfterVmxoff => 6
  | .vmentryInvalidControlFields => 7
  | .vmentryInvalidHostState => 8
  | .vmptrldInvalidAddress => 9
  | .vmptrldVmxonPointer => 10
  | .vmptrldIncorrectRevision => 11
  | .unsupportedVmcsComponent => 12
  | .vmwriteReadOnlyComponent => 13
  | .vmxonInVmxRoot => 15
  | .vmentryInvalidExecutiveVmcsPointer => 16
  | .vmentryNonLaunchedExecutiveVmcs => 17
  | .vmentryExecutiveVmcsPointerNotVmxon => 18
  | .vmcallNonClearVmcs => 19
  | .vmcallInvalidExitControls => 20
  | .vmcallIncorrectMsegRevision => 22
  | .vmxoffUnderDualMonitor => 23
  | .vmcallInvalidSmmMonitorFeatures => 24
  | .vmentryInvalidExecutionControls => 25
  | .vmentryEventsBlockedByMovSs => 26
  | .invalidInveptInvvpidOperand => 28
  | .unknown code => code

/-- What an error means. -/
def description : InstructionError → String
  | .notAvailable => "no error recorded"
  | .vmcallInVmxRoot => "VMCALL executed in VMX root operation"
  | .vmclearInvalidAddress => "VMCLEAR with invalid physical address"
  | .vmclearVmxonPointer => "VMCLEAR with VMXON pointer"
  | .vmlaunchNonClearVmcs => "VMLAUNCH with non-clear VMCS"
  | .vmresumeNonLaunchedVmcs => "VMRESUME with non-launched VMCS"
  | .vmresumeAfterVmxoff => "VMRESUME after VMXOFF"
  | .vmentryInvalidControlFields => "VM entry with invalid control field(s)"
  | .vmentryInvalidHostState => "VM entry with invalid host-state field(s)"
  | .vmptrldInvalidAddress => "VMPTRLD with invalid physical address"
  | .vmptrldVmxonPointer => "VMPTRLD with VMXON pointer"
  | .vmptrldIncorrectRevision => "VMPTRLD with incorrect VMCS revision identifier"
  | .unsupportedVmcsComponent => "VMREAD/VMWRITE from/to unsupported VMCS component"
  | .vmwriteReadOnlyComponent => "VMWRITE to read-only VMCS component"
  | .vmxonInVmxRoot => "VMXON executed in VMX root operation"
  | .vmentryInvalidExecutiveVmcsPointer => "VM entry with invalid executive-VMCS pointer"
  | .vmentryNonLaunchedExecutiveVmcs => "VM entry with non-launched executive VMCS"
  | .vmentryExecutiveVmcsPointerNotVmxon =>
      "VM entry with executive-VMCS pointer not VMXON pointer"
  | .vmcallNonClearVmcs => "VMCALL with non-clear VMCS"
  | .vmcallInvalidExitControls => "VMCALL with invalid VM-exit control fields"
  | .vmcallIncorrectMsegRevision => "VMCALL with incorrect MSEG revision identifier"
  | .vmxoffUnderDualMonitor => "VMXOFF under dual-monitor treatment of SMIs and SMM"
  | .vmcallInvalidSmmMonitorFeatures => "VMCALL with invalid SMM-monitor features"
  | .vmentryInvalidExecutionControls =>
      "VM entry with invalid VM-execution control fields in executive VMCS"
  | .vmentryEventsBlockedByMovSs => "VM entry with events blocked by MOV SS"
  | .invalidInveptInvvpidOperand => "Invalid operand to INVEPT/INVVPID"
  | .unknown _ => "unknown error"

/-- The name of an error in dumps. -/
def dump : InstructionError → Dump
  | .notAvailable => .name "NotAvailable"
  | .vmcallInVmxRoot => .name "VmcallInVmxRoot"
  | .vmclearInvalidAddress => .name "VmclearInvalidAddress"
  | .vmclearVmxonPointer => .name "VmclearVmxonPointer"
  | .vmlaunchNonClearVmcs => .name "VmlaunchNonClearVmcs"
  | .vmresumeNonLaunchedVmcs => .name "VmresumeNonLaunchedVmcs"
  | .vmresumeAfterVmxoff => .name "VmresumeAfterVmxoff"
  | .vmentryInvalidControlFields => .name "VmentryInvalidControlFields"
  | .vmentryInvalidHostState => .name "VmentryInvalidHostState"
  | .vmptrldInvalidAddress => .name "VmptrldInvalidAddress"
  | .vmptrldVmxonPointer => .name "VmptrldVmxonPointer"
  | .vmptrldIncorrectRevision => .name "VmptrldIncorrectRevision"
  | .unsupportedVmcsComponent => .name "UnsupportedVmcsComponent"
  | .vmwriteReadOnlyComponent => .name "VmwriteReadOnlyComponent"
  | .vmxonInVmxRoot => .name "VmxonInVmxRoot"
  | .vmentryInvalidExecutiveVmcsPointer => .name "VmentryInvalidExecutiveVmcsPointer"
  | .vmentryNonLaunchedExecutiveVmcs => .name "VmentryNonLaunchedExecutiveVmcs"
  | .vmentryExecutiveVmcsPointerNotVmxon => .name "VmentryExecutiveVmcsPointerNotVmxon"
  | .vmcallNonClearVmcs => .name "VmcallNonClearVmcs"
  | .vmcallInvalidExitControls => .name "VmcallInvalidExitControls"
  | .vmcallIncorrectMsegRevision => .name "VmcallIncorrectMsegRevision"
  | .vmxoffUnderDualMonitor => .name "VmxoffUnderDualMonitor"
  | .vmcallInvalidSmmMonitorFeatures => .name "VmcallInvalidSmmMonitorFeatures"
  | .vmentryInvalidExecutionControls => .name "VmentryInvalidExecutionControls"
  | .vmentryEventsBlockedByMovSs => .name "VmentryEventsBlockedByMovSs"
  | .invalidInveptInvvpidOperand => .name "InvalidInveptInvvpidOperand"
  | .unknown code => .wrapped "Unknown" (.number code.toNat)

/-- The text of an error in messages: its meaning and its number. -/
def message (error : InstructionError) : String :=
  error.description ++ " (" ++ Text.decimal error.code.toNat ++ ")"

end InstructionError

end VtxMonitor
