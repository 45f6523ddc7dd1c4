import VtxMonitor.Platform

/-!
# Monitor — one virtual processor for every processor of a platform

A `Configuration` holds the MSR intercepts and exit handlers that a list of wishes asks for;
`Configuration.build` turns it into a `Monitor` with one virtual processor per processor, provided
that VMX can be used. `Monitor.virtualize` brings the processors under the monitor one after
another and stops at the first that fails: that one is rolled back, the ones before it keep
running as guests, the ones behind it are not touched.
-/

namespace VtxMonitor

/-- One wish about the configuration of a monitor. -/
inductive Setting where
  /-- Makes reads of an MSR exit. -/
  | interceptRead (msr : Msr.Number)
  /-- Makes writes of an MSR exit. -/
  | interceptWrite (msr : Msr.Number)
  /-- Makes reads and writes of an MSR exit. -/
  | interceptBoth (msr : Msr.Number)
  /-- Registers a handler, in place of the one for the same reason. -/
  | handler (reason : BasicExitReason) (handler : ExitHandler)
  /-- Registers several handlers in order. -/
  | handlers (registrations : List (BasicExitReason × ExitHandler))

namespace Setting

/-- The handlers that a wish registers, in order. -/
def registrations : Setting → List (BasicExitReason × ExitHandler)
  | .handler reason action => [(reason, action)]
  | .handlers entries => entries
  | _ => []

/-- The MSR whose reads a wish makes exit. -/
def reads : Setting → List Msr.Number
  | .interceptRead msr | .interceptBoth msr => [msr]
  | _ => []

/-- The MSR whose writes a wish makes exit. -/
def writes : Setting → List Msr.Number
  | .interceptWrite msr | .interceptBoth msr => [msr]
  | _ => []

end Setting

/-- What every virtual processor of a monitor starts with. -/
structure Configuration where
  handlers : ExitHandlers := .defaults
  intercepts : MsrIntercepts := {}

namespace Configuration

/-- The configuration in which a list of wishes results, made in order on top of the defaults. -/
def ofSettings (settings : List Setting) : Configuration where
  handlers := ExitHandlers.defaults.insertAll (settings.flatMap Setting.registrations)
  intercepts := ⟨settings.flatMap Setting.reads, settings.flatMap Setting.writes⟩

/-- What there is to report about a list of wishes. -/
def remarks (settings : List Setting) : List Diagnostic :=
  ExitHandlers.defaults.insertAllRemarks (settings.flatMap Setting.registrations)

end Configuration

/-- The virtual processors of a platform, by the index of their processor. -/
structure Monitor where
  vcpus : List Vcpu

variable {σ : Type}

namespace Configuration

/-- Creates virtual processors for consecutive indices. -/
def createVcpus (configuration : Configuration) :
    List Nat → Platform σ → List Vcpu × Platform σ
  | [], platform => ([], platform)
  | index :: rest, platform =>
      let (vcpu, platform) := platform.newVcpu (BitVec.ofNat 32 index) configuration.handlers
        configuration.intercepts
      let (vcpus, platform) := configuration.createVcpus rest platform
      (vcpu :: vcpus, platform)

/-- Builds the monitor of a platform, if VMX can be used on its first processor. -/
def build (configuration : Configuration) (hw : Hardware σ) (platform : Platform σ) :
    Option Monitor × Platform σ :=
  match platform.runOn hw 0 Support.isSupported with
  | none => (none, platform)
  | some (false, platform) => (none, platform.report .vmxUnsupported)
  | some (true, platform) =>
      let (vcpus, platform) :=
        configuration.createVcpus (List.range platform.count.toNat) platform
      (some ⟨vcpus⟩, platform.report (.foundProcessors vcpus.length))

end Configuration

namespace Monitor

/-- Brings the processors of virtual processors under the monitor, in order, until one fails. -/
def virtualizeAll (hw : Hardware σ) :
    List Vcpu → Platform σ → Bool × List Vcpu × Platform σ
  | [], platform => (true, [], platform)
  | vcpu :: rest, platform =>
      match platform.runOn hw vcpu.index.toNat (Vcpu.virtualize.start vcpu) with
      | none => (false, vcpu :: rest, platform.report (.switchFailed vcpu.index))
      | some ((.error error, vcpu), platform) =>
          (false, vcpu :: rest, platform.report (.virtualizationFailed vcpu.index error))
      | some ((.ok (), vcpu), platform) =>
          let (success, vcpus, platform) := virtualizeAll hw rest platform
          (success, vcpu :: vcpus, platform)

/-- Brings every processor under the monitor; false if one fails. -/
def virtualize (hw : Hardware σ) (monitor : Monitor) (platform : Platform σ) :
    Bool × Monitor × Platform σ :=
  let (success, vcpus, platform) :=
    virtualizeAll hw monitor.vcpus (platform.report .virtualizingProcessors)
  (success, ⟨vcpus⟩, platform)

end Monitor

end VtxMonitor
