import VtxMonitor.Proofs.Vcpu.BringUp

/-!
# Proofs/Vcpu/ControlWords — the control words that a guest is launched with

The control fields are filled first, and filling the host-state and the guest-state area spares
them.  A virtualization changes no capability MSR.  Hence **a launched guest runs under the adjusted
control words** of the processor that was virtualized (`word_virtualize`).
-/

namespace VtxMonitor

open SimulatedProcessor (hardware)

namespace SimulatedProcessor

variable {cpu cpu' : SimulatedProcessor}

/-- The feature control is no capability of a control word. -/
theorem allowedSettings_congr (same : ∀ msr ≠ Msr.featureControl, cpu'.msrs msr = cpu.msrs msr) :
    cpu'.allowedSettings = cpu.allowedSettings := by
  funext control
  have capability : ∀ trueControls, control.capabilityMsr trueControls ≠ Msr.featureControl := by
    cases control <;> decide
  have basic : cpu'.msrs Msr.vmxBasic = cpu.msrs Msr.vmxBasic := same _ (by decide)
  rw [← ofCapability_msrs, ← ofCapability_msrs, basic, same _ (capability _)]

end SimulatedProcessor

/-! ## Launching a guest -/

namespace Vcpu

variable {vcpu : Vcpu} {cpu : SimulatedProcessor}

/-- **A launched guest runs under the adjusted control words**: a virtualization that succeeds
leaves them in the current VMCS, and what the processor allows stays. -/
theorem word_virtualize (succeeds : (hardware.execute vcpu cpu virtualize).outcome = .ok ()) :
    let launched := (hardware.execute vcpu cpu virtualize).state
    launched.currentVmcs.isSome ∧ launched.allowedSettings = cpu.allowedSettings ∧
      ∀ control : VmxControl, launched.word control.field
        = (Vmcs.adjustedWord cpu.allowedSettings control).setWidth 64 := by
  obtain ⟨featureControl, -, -, ran⟩ := (virtualizeEnds vcpu cpu).of_ok succeeds
  have ends := BringUpEnds.of_execute ran
  generalize hardware.execute vcpu cpu virtualize = execution at succeeds ends
  cases ends with
  | unusableVmxon | refusedVmxon | unmappedVmcs | unmappedBitmap | failedLaunch =>
      exact nomatch succeeds
  | @launched vmxon vmcs bitmap fields fills mapped =>
      have filling : (fillingProcessor cpu featureControl vmxon vmcs).currentVmcs.isSome := rfl
      have settings : (fillingProcessor cpu featureControl vmxon vmcs).allowedSettings
          = cpu.allowedSettings := SimulatedProcessor.allowedSettings_congr fun _ other =>
        cpu.lockedMsrs_of_ne featureControl other
      have bitmapMapped : (fillingProcessor cpu featureControl vmxon vmcs).physicalAddress
          (vcpu.filling cpu).memory.msrBitmapAddress = some bitmap := by
        rw [SimulatedProcessor.physicalAddress_congr (offset_fillingProcessor ..)]
        exact (congrArg cpu.physicalAddress (loading_msrBitmapAddress vcpu cpu)).trans mapped
      refine ⟨rfl, settings, fun control => ?_⟩
      have populated := SimulatedProcessor.word_populate_control filling bitmapMapped control
      rw [fills.populated, settings] at populated
      exact populated

end Vcpu

end VtxMonitor
