import VtxMonitor.Proofs.Vcpu.BringUp

/-!
# Proofs/Vcpu/Rollback — a failed virtualization leaves the processor as it was

Wherever a bring-up fails, undoing what was done gives back the processor as it was, except for the
VMCS fields, the recorded events, the interrupt flag and the lock of IA32_FEATURE_CONTROL
(`BringUpEnds.undone_eq`).
-/

namespace VtxMonitor

open SimulatedProcessor (hardware)

namespace SimulatedProcessor

/-- The processor after a failed bring-up: what is not undone are the lock of
IA32_FEATURE_CONTROL, the interrupt flag, the VMCS fields and the recorded events. -/
def rolledBack (cpu : SimulatedProcessor) (featureControl : FeatureControlState)
    (fields : Vmcs.Field → Option Word) (events : List Event) : SimulatedProcessor :=
  { cpu with
    msrs := cpu.lockedMsrs featureControl
    rflags := cpu.rflags ||| rflagsIf
    fields
    events }

/-- Everything that a failed virtualization has to leave as it was. -/
structure RestoredTo (before after : SimulatedProcessor) : Prop where
  cr0 : after.cr0 = before.cr0
  cr3 : after.cr3 = before.cr3
  cr4 : after.cr4 = before.cr4
  vmxOperation : after.vmxOperation = before.vmxOperation
  currentVmcs : after.currentVmcs = before.currentVmcs
  launched : after.launched = before.launched
  selectors : after.selectors = before.selectors
  msrs : ∀ msr, msr ≠ Msr.featureControl → after.msrs msr = before.msrs msr
  /-- An unlocked IA32_FEATURE_CONTROL may have gained its lock and VMX outside of SMX. -/
  featureControl : after.msrs Msr.featureControl = before.msrs Msr.featureControl ∨
    FeatureControl.locked.isSetIn (before.msrs Msr.featureControl) = false ∧
      after.msrs Msr.featureControl = before.msrs Msr.featureControl |||
        (FeatureControl.locked.mask ||| FeatureControl.vmxOutsideSmx.mask)

theorem RestoredTo.refl (cpu : SimulatedProcessor) : RestoredTo cpu cpu :=
  ⟨rfl, rfl, rfl, rfl, rfl, rfl, rfl, fun _ _ => rfl, .inl rfl⟩

theorem restoredTo_rolledBack {cpu : SimulatedProcessor} {featureControl : FeatureControlState}
    (supported : cpu.checkOutcome = .ok featureControl)
    (fields : Vmcs.Field → Option Word) (events : List Event) :
    RestoredTo cpu (cpu.rolledBack featureControl fields events) where
  cr0 := rfl
  cr3 := rfl
  cr4 := rfl
  vmxOperation := rfl
  currentVmcs := rfl
  launched := rfl
  selectors := rfl
  msrs msr ne := cpu.lockedMsrs_of_ne featureControl ne
  featureControl := by
    cases featureControl with
    | enabled => exact .inl rfl
    | unlocked =>
        have written : cpu.lockedMsrs .unlocked Msr.featureControl
            = Vcpu.lockedFeatureControl (cpu.msrs Msr.featureControl) := update_self _ _ _
        rw [Vcpu.lockedFeatureControl_eq] at written
        exact .inr ⟨isSetIn_locked supported, written⟩

end SimulatedProcessor

namespace Vcpu

variable {vcpu : Vcpu} {cpu : SimulatedProcessor} {featureControl : FeatureControlState}

/-! ## Undoing at each stage -/

theorem undone_of_vmxEnabled (stage : vcpu.stage = .vmxEnabled) :
    vcpu.undone cpu
      = { cpu with
          cr0 := vcpu.savedCr0
          cr4 := vcpu.savedCr4
          rflags := cpu.rflags ||| rflagsIf
          events := cpu.events ++ vcpu.undoEvents cpu } := by
  simp [undone, stage, Stage.reached, Stage.rank]

theorem undone_of_vmxOn (stage : vcpu.stage = .vmxOn ∨ vcpu.stage = .vmcsLoaded) :
    vcpu.undone cpu
      = { cpu with
          cr0 := vcpu.savedCr0
          cr4 := vcpu.savedCr4
          rflags := cpu.rflags ||| rflagsIf
          vmxOperation := false
          currentVmcs := none
          events := cpu.events ++ vcpu.undoEvents cpu } := by
  rcases stage with stage | stage <;> simp [undone, stage, Stage.reached, Stage.rank]

/-- **Undoing a failed bring-up gives the processor back**, provided that a current VMCS implied VMX
operation before. -/
theorem BringUpEnds.undone_eq {error : Error} {record : Vcpu} {state : SimulatedProcessor}
    (fails : BringUpEnds vcpu cpu featureControl ⟨.error error, record, state⟩)
    (current : cpu.currentVmcs.isSome → cpu.vmxOperation = true) :
    record.undone state
      = cpu.rolledBack featureControl state.fields
          (state.events ++ record.undoEvents state) := by
  have enabled := SimulatedProcessor.rflags_enabled cpu.rflags
  have noVmcs : cpu.vmxOperation = false → cpu.currentVmcs = none := by
    intro outside
    cases h : cpu.currentVmcs with
    | none => rfl
    | some vmcs => exact absurd (current (by rw [h]; rfl)) (by rw [outside]; decide)
  cases fails with
  | unusableVmxon =>
      rw [undone_of_vmxEnabled rfl]
      simp [SimulatedProcessor.rolledBack, SimulatedProcessor.withVmxEnabled, enabled]
  | refusedVmxon =>
      rw [undone_of_vmxEnabled rfl]
      simp [SimulatedProcessor.rolledBack, SimulatedProcessor.withVmxEnabled,
        SimulatedProcessor.record, enabled]
  | unmappedVmcs enters =>
      rw [undone_of_vmxOn (.inl rfl)]
      simp [SimulatedProcessor.rolledBack, SimulatedProcessor.withVmxEnabled,
        SimulatedProcessor.withVmxOn, enabled, enters.outside, noVmcs enters.outside]
  | unmappedBitmap fills =>
      rw [undone_of_vmxOn (.inr rfl)]
      simp [SimulatedProcessor.rolledBack, fillingProcessor, SimulatedProcessor.withVmxEnabled,
        SimulatedProcessor.withVmxOn, SimulatedProcessor.withVmcsLoaded,
        SimulatedProcessor.withFields, enabled, fills.outside, noVmcs fills.outside]
  | failedLaunch fills =>
      rw [undone_of_vmxOn (.inr rfl)]
      simp [SimulatedProcessor.rolledBack, fillingProcessor, SimulatedProcessor.withVmxEnabled,
        SimulatedProcessor.withVmxOn, SimulatedProcessor.withVmcsLoaded,
        SimulatedProcessor.withFields, SimulatedProcessor.withFailedLaunch, enabled, fills.outside,
        noVmcs fills.outside]

/-! ## Rollback -/

/-- **A failed virtualization is undone**, whichever step failed: the virtual processor is in stage
`off` again, and of the processor only the lock of IA32_FEATURE_CONTROL may stay. -/
theorem virtualize_failed_restores {error : Error}
    (current : cpu.currentVmcs.isSome → cpu.vmxOperation = true) (off : vcpu.stage = .off)
    (fails : (hardware.execute vcpu cpu virtualize).outcome = .error error) :
    (hardware.execute vcpu cpu virtualize).record.stage = .off ∧
      cpu.RestoredTo (hardware.execute vcpu cpu virtualize).state := by
  obtain ⟨-, unchanged⟩ | ⟨featureControl, record, state, supported, ran, undone⟩ :=
    (virtualizeEnds vcpu cpu).of_error off fails
  · rw [unchanged]
    exact ⟨off, .refl cpu⟩
  · rw [undone, (BringUpEnds.of_execute ran).undone_eq current]
    exact ⟨rfl, SimulatedProcessor.restoredTo_rolledBack supported _ _⟩

/-- With a VMXON region in the last page of physical memory, the VMCS behind it is not mapped. -/
theorem virtualize_failed_restores_lastPage :
    let cpu := { SimulatedProcessor.reset.setMsr Msr.featureControl 0 with
      physicalOffset := 0xfffffffffffe9000 }
    let execution := hardware.execute (fresh 0 0x1c000 0x10000 .empty {}) cpu virtualize
    execution.outcome = .error (.unmappedAddress 0x17000) ∧
      execution.record.stage = .off ∧ cpu.RestoredTo execution.state := by
  have fails : (hardware.execute (fresh 0 0x1c000 0x10000 .empty {})
      { SimulatedProcessor.reset.setMsr Msr.featureControl 0 with
        physicalOffset := 0xfffffffffffe9000 } virtualize).outcome
        = .error (.unmappedAddress 0x17000) := rfl
  exact ⟨fails, virtualize_failed_restores (by decide) rfl fails⟩

end Vcpu

end VtxMonitor
