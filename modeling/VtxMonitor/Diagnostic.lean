import VtxMonitor.Control.Capability
import VtxMonitor.Error
import VtxMonitor.Exit.Reason
import VtxMonitor.Guest.Registers
import VtxMonitor.Host.Tables
import VtxMonitor.Interruption.Information
import VtxMonitor.Msr.Bitmap
import VtxMonitor.Segment.Table
import VtxMonitor.Vcpu.Stage

/-!
# Diagnostic — what the monitor reports while it runs

One constructor per occasion, with the values it shows; `severity` grades it and `text` words it.
-/

namespace VtxMonitor

open Text (hex decimal)

/-- How serious a diagnostic is, most serious first. -/
inductive Severity where
  | error
  | warn
  | info
  | debug
  | trace
deriving DecidableEq

namespace Severity

/-- The name of a severity in a log line. -/
def label : Severity → String
  | .error => "ERROR"
  | .warn => "WARN"
  | .info => "INFO"
  | .debug => "DEBUG"
  | .trace => "TRACE"

/-- All severities, most serious first. -/
def all : List Severity := [.error, .warn, .info, .debug, .trace]

/-- The severity with a name, in letters of either case. -/
def ofLabel? (label : String) : Option Severity :=
  all.find? fun severity => severity.label = label.toUpper

/-- The rank of a severity: 1 for the most serious. -/
def rank : Severity → Nat
  | .error => 1
  | .warn => 2
  | .info => 3
  | .debug => 4
  | .trace => 5

/-- A log line: the severity, the text and a line feed. -/
def line (severity : Severity) (text : String) : String :=
  severity.label ++ " - " ++ text ++ "\n"

end Severity

/-- The least serious severity that is still collected; `none` collects nothing. -/
abbrev Threshold := Option Severity

/-- Whether a threshold lets a severity pass. -/
def Threshold.allows (threshold : Threshold) (severity : Severity) : Bool :=
  match threshold with
  | none => false
  | some least => severity.rank ≤ least.rank

/-- The occasions on which the monitor reports something. -/
inductive Diagnostic where
  | creatingVcpu (index : BitVec 32)
  | virtualizingProcessor (index : BitVec 32)
  | bringUpFailed (index : BitVec 32) (stage : Stage) (error : Error)
  | enabledVmx
  | enteredVmx
  | loadedVmcs
  | preparedHost
  | wroteFields
  | virtualizedProcessor (index : BitVec 32)
  | lockingFeatureControl
  | hostGdt (gdt : HostGdt)
  | interceptingMsrs (intercepts : MsrIntercepts)
  | msrOutsideBitmap (msr : Msr.Number)
  | runsGuest (index : BitVec 32)
  | teardownClearFailed (fail : VmFail)
  | teardownUnmapped (error : Error)
  | teardownVmxoffFailed (fail : VmFail)
  | toreDown (index : BitVec 32) (stage : Stage)
  | regionMisaligned (region : String) (address : Word)
  | leakingHostStructures (index : BitVec 32)
  | vmxMissing
  | vmxLockedOff
  | unsupportedBits (control : VmxControl) (bits : BitVec 32)
  | controlAdjusted (control : VmxControl) (value requested : BitVec 32)
  | controlRefused (control : VmxControl) (value : BitVec 32) (settings : AllowedSettings)
  | hostEntry (rsp rip : Word)
  | guestSegment (segment : Segment)
  | selectorBeyondGdt (selector : BitVec 16)
  | launchFailed (fail : VmFail) (error : InstructionError)
  | entryFailed (reason : ExitReason)
  | unhandledExit (reason : BasicExitReason) (rip qualification : Word) (registers : GuestRegisters)
  | handlingExit (reason : BasicExitReason)
  | handlerReplaced (reason : BasicExitReason)
  | unsupportedMovToCr (access : ControlAccess)
  | unsupportedMovFromCr (access : ControlAccess)
  | readMsr (msr : Msr.Number) (value : Word)
  | wroteMsr (msr : Msr.Number) (value : Word)
  | queueingNmi
  | reinjecting (vector : BitVec 8) (errorCode : BitVec 32)
  | ignoringInterrupt (vector rip : Word)
  | inveptSkipped
  | vmxUnsupported
  | foundProcessors (count : Nat)
  | virtualizingProcessors
  | switchFailed (index : BitVec 32)
  | virtualizationFailed (index : BitVec 32) (error : Error)
  | stackCorrupted (index : BitVec 32)
  | fatalExit (index : BitVec 32) (error : Error)
  | resumeFailed (outcome : Except Error InstructionError)
  | interruptFailed (vector : Word) (error : Error)

namespace Diagnostic

/-- How serious a diagnostic is. -/
def severity : Diagnostic → Severity
  | bringUpFailed .. | teardownClearFailed _ | teardownUnmapped _ | teardownVmxoffFailed _
  | regionMisaligned .. | leakingHostStructures _ | controlRefused .. | launchFailed ..
  | entryFailed _ | unhandledExit .. | vmxUnsupported | switchFailed _ | virtualizationFailed ..
  | stackCorrupted _ | fatalExit .. | resumeFailed _ | interruptFailed .. => .error
  | msrOutsideBitmap _ | runsGuest _ | vmxMissing | vmxLockedOff | unsupportedBits ..
  | selectorBeyondGdt _ | handlerReplaced _ | unsupportedMovToCr _ | unsupportedMovFromCr _ => .warn
  | virtualizingProcessor _ | enabledVmx | enteredVmx | loadedVmcs | preparedHost | wroteFields
  | virtualizedProcessor _ | lockingFeatureControl | interceptingMsrs _ | toreDown ..
  | foundProcessors _ | virtualizingProcessors => .info
  | creatingVcpu _ | hostGdt _ | controlAdjusted .. | hostEntry .. | guestSegment _
  | handlingExit _ | readMsr .. | wroteMsr .. | queueingNmi | reinjecting .. | ignoringInterrupt ..
  | inveptSkipped => .trace

/-- The wording of a diagnostic. -/
def text : Diagnostic → String
  | creatingVcpu index => "Creating processor " ++ decimal index.toNat
  | virtualizingProcessor index => "Virtualizing processor " ++ decimal index.toNat
  | bringUpFailed index stage error =>
      "Failed to virtualize processor " ++ decimal index.toNat ++ " at stage " ++ stage.label ++
        ": " ++ error.message
  | enabledVmx => "Enabled VMX operation"
  | enteredVmx => "Entered VMX operation"
  | loadedVmcs => "Set the VMCS pointer"
  | preparedHost => "Prepared the host structures"
  | wroteFields => "Wrote the VMCS fields"
  | virtualizedProcessor index => "Virtualized processor " ++ decimal index.toNat
  | lockingFeatureControl => "Locking IA32_FEATURE_CONTROL with VMX enabled"
  | hostGdt gdt =>
      "Host gdt: " ++ (Text.Dump.list (gdt.toList.map fun entry => .number entry.toNat)).inHex
  | interceptingMsrs intercepts => "Intercepting msrs: " ++ intercepts.dump.inHex
  | msrOutsideBitmap msr =>
      "Msr " ++ hex msr ++ " is outside of the bitmap and always exits"
  | runsGuest index =>
      "Processor " ++ decimal index.toNat ++ " runs the guest and can not be torn down"
  | teardownClearFailed fail => "VMCLEAR failed during teardown: " ++ fail.label
  | teardownUnmapped error => error.message
  | teardownVmxoffFailed fail => "VMXOFF failed during teardown: " ++ fail.label
  | toreDown index stage =>
      "Tore down processor " ++ decimal index.toNat ++ " from stage " ++ stage.label
  | regionMisaligned region address =>
      region ++ " region at " ++ hex address ++ " is not page aligned"
  | leakingHostStructures index =>
      "Processor " ++ decimal index.toNat ++
        " still runs the guest, leaking its host structures"
  | vmxMissing => "Processor does not support VMX"
  | vmxLockedOff =>
      "VMX is disabled and locked in IA32_FEATURE_CONTROL. Enable it in the firmware."
  | unsupportedBits control bits =>
      control.label ++ ": requested bits " ++ hex bits ++ " are not supported"
  | controlAdjusted control value requested =>
      control.label ++ ": " ++ hex value ++ " (requested " ++ hex requested ++ ")"
  | controlRefused control value settings =>
      control.label ++ ": " ++ hex value ++ " violates allowed0 " ++ hex settings.allowed0 ++
        " / allowed1 " ++ hex settings.allowed1
  | hostEntry rsp rip => "Host rsp: " ++ hex rsp ++ ", rip: " ++ hex rip
  | guestSegment segment => "Guest segment: " ++ segment.dump.inHex
  | selectorBeyondGdt selector => "Selector " ++ hex selector ++ " is outside of the GDT"
  | launchFailed fail error => "VMLAUNCH failed (" ++ fail.label ++ "): " ++ error.message
  | entryFailed reason => "VM-entry failed: " ++ reason.dump.inDecimal
  | unhandledExit reason rip qualification registers =>
      "Unhandled VM-exit " ++ reason.text ++ " at rip " ++ hex rip ++ ", qualification " ++
        hex qualification ++ ", " ++ registers.dump.inHex
  | handlingExit reason => "Handling VM-exit " ++ reason.text
  | handlerReplaced reason =>
      "Handler for " ++ reason.text ++ " was overwritten. Was this on purpose?"
  | unsupportedMovToCr access => "Unsupported mov to cr: " ++ access.dump.inDecimal
  | unsupportedMovFromCr access => "Unsupported mov from cr: " ++ access.dump.inDecimal
  | readMsr msr value => "rdmsr(" ++ hex msr ++ ") = " ++ hex value
  | wroteMsr msr value => "wrmsr(" ++ hex msr ++ ", " ++ hex value ++ ")"
  | queueingNmi => "Queueing guest NMI"
  | reinjecting vector errorCode =>
      "Reinjecting exception " ++ decimal vector.toNat ++ " (" ++ hex errorCode ++ ")"
  | ignoringInterrupt vector rip =>
      "Ignoring host interrupt " ++ decimal vector.toNat ++ " at " ++ hex rip
  | inveptSkipped => "INVEPT is not supported, skipping it"
  | vmxUnsupported => "VMX is not supported"
  | foundProcessors count => "Found " ++ decimal count ++ " processors"
  | virtualizingProcessors => "Virtualizing processors"
  | switchFailed index => "Failed to switch to processor " ++ decimal index.toNat
  | virtualizationFailed index error =>
      "Failed to virtualize processor " ++ decimal index.toNat ++ ": " ++ error.message
  | stackCorrupted index => "Host stack of processor " ++ decimal index.toNat ++ " is corrupted"
  | fatalExit index error =>
      "Fatal VM-exit on processor " ++ decimal index.toNat ++ ": " ++ error.message
  | resumeFailed (.ok error) => "VMRESUME failed: Ok(" ++ error.dump.inDecimal ++ ")"
  | resumeFailed (.error error) => "VMRESUME failed: Err(" ++ error.dump.inDecimal ++ ")"
  | interruptFailed vector error =>
      "Failed to handle host interrupt " ++ decimal vector.toNat ++ ": " ++ error.message

/-- The log line of a diagnostic. -/
def line (diagnostic : Diagnostic) : String := diagnostic.severity.line diagnostic.text

end Diagnostic

/-- Collected log lines, with the threshold that decides which are kept. -/
structure Journal where
  threshold : Threshold
  lines : Array String

namespace Journal

/-- A journal without lines. -/
def empty (threshold : Threshold) : Journal := ⟨threshold, #[]⟩

/-- Collects a diagnostic, if the threshold lets it pass. -/
def add (journal : Journal) (diagnostic : Diagnostic) : Journal :=
  if Threshold.allows journal.threshold diagnostic.severity then
    { journal with lines := journal.lines.push diagnostic.line }
  else journal

/-- Collects diagnostics in order. -/
def addAll (journal : Journal) (diagnostics : List Diagnostic) : Journal :=
  diagnostics.foldl add journal

end Journal

end VtxMonitor
