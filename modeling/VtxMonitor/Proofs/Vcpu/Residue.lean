import VtxMonitor.Proofs.Vcpu.Outcome
import VtxMonitor.Proofs.Vcpu.Rollback

/-!
# Proofs/Vcpu/Residue — what failed virtualizations leave behind has no influence on the next one

`SimulatedProcessor.Residue` and `Vcpu.Residue` say what a processor and a virtual processor still
have in common with the state before some failed attempts.  A failed attempt leaves a residue
(`residue_of_failure`), residues of residues are residues, and **a virtualization ends with the
same outcome on a residue** (`outcome_residue`).
-/

namespace VtxMonitor

open SimulatedProcessor (hardware)

namespace SimulatedProcessor

/-! ## The processor -/

/-- The processor with another physical offset and other launches that are made to fail. -/
def reconfigured (cpu : SimulatedProcessor) (offset : Word) (failure : Option (BitVec 32)) :
    SimulatedProcessor :=
  { cpu with physicalOffset := offset, launchFailure := failure }

/-- What a processor has in common with itself before failed attempts.  VMCS fields, events and
what is configured from outside may differ, an unlocked IA32_FEATURE_CONTROL may be locked, and
interrupts may be enabled. -/
structure Residue (before after : SimulatedProcessor) : Prop where
  cpuid : after.cpuid = before.cpuid
  cr0 : after.cr0 = before.cr0
  cr3 : after.cr3 = before.cr3
  cr4 : after.cr4 = before.cr4
  rflags : after.rflags ||| rflagsIf = before.rflags ||| rflagsIf
  selectors : after.selectors = before.selectors
  vmxOperation : after.vmxOperation = before.vmxOperation
  currentVmcs : after.currentVmcs = before.currentVmcs
  launched : after.launched = before.launched
  msrs : after.msrs = before.msrs ∨
    before.checkOutcome = .ok .unlocked ∧ after.msrs = before.lockedMsrs .unlocked

variable {cpu before after : SimulatedProcessor} {featureControl : FeatureControlState}

theorem checkOutcome_congr (cpuid : after.cpuid = before.cpuid) (msrs : after.msrs = before.msrs) :
    after.checkOutcome = before.checkOutcome := by
  rw [checkOutcome, checkOutcome, cpuid, msrs]

theorem lockedMsrs_congr (msrs : after.msrs = before.msrs)
    (featureControl : FeatureControlState) :
    after.lockedMsrs featureControl = before.lockedMsrs featureControl := by
  cases featureControl with
  | enabled => exact msrs
  | unlocked => rw [lockedMsrs, lockedMsrs, msrs]

/-- Once IA32_FEATURE_CONTROL is locked, the capability check finds VMX enabled. -/
theorem checkOutcome_of_locked (unlocked : before.checkOutcome = .ok .unlocked)
    (cpuid : after.cpuid = before.cpuid) (locked : after.msrs = before.lockedMsrs .unlocked) :
    after.checkOutcome = .ok .enabled := by
  have vmx : (before.cpuid 1).ecx.getLsbD 5 = true := by
    rw [Vcpu.checkOutcome_eq] at unlocked
    split at unlocked
    · assumption
    · exact nomatch unlocked
  have written : after.msrs Msr.featureControl = before.msrs Msr.featureControl |||
      (FeatureControl.locked.mask ||| FeatureControl.vmxOutsideSmx.mask) := by
    rw [locked, ← Vcpu.lockedFeatureControl_eq]
    exact update_self _ _ _
  have bits : (FeatureControl.locked.mask ||| FeatureControl.vmxOutsideSmx.mask) = (5 : Word) := by
    decide
  have lock : (after.msrs Msr.featureControl).getLsbD 0 = true := by
    rw [written, bits, BitVec.getLsbD_or]
    exact Bool.or_true _
  have outside : (after.msrs Msr.featureControl).getLsbD 2 = true := by
    rw [written, bits, BitVec.getLsbD_or]
    exact Bool.or_true _
  rw [Vcpu.checkOutcome_eq, cpuid, vmx, lock, outside]
  rfl

namespace Residue

theorem refl (cpu : SimulatedProcessor) : Residue cpu cpu :=
  ⟨rfl, rfl, rfl, rfl, rfl, rfl, rfl, rfl, rfl, .inl rfl⟩

theorem reconfigured (cpu : SimulatedProcessor) (offset : Word) (failure : Option (BitVec 32)) :
    Residue cpu (cpu.reconfigured offset failure) :=
  ⟨rfl, rfl, rfl, rfl, rfl, rfl, rfl, rfl, rfl, .inl rfl⟩

/-- **Residues of residues are residues**: IA32_FEATURE_CONTROL is locked once at most. -/
theorem trans {last : SimulatedProcessor} (first : Residue before after)
    (second : Residue after last) : Residue before last where
  cpuid := second.cpuid.trans first.cpuid
  cr0 := second.cr0.trans first.cr0
  cr3 := second.cr3.trans first.cr3
  cr4 := second.cr4.trans first.cr4
  rflags := second.rflags.trans first.rflags
  selectors := second.selectors.trans first.selectors
  vmxOperation := second.vmxOperation.trans first.vmxOperation
  currentVmcs := second.currentVmcs.trans first.currentVmcs
  launched := second.launched.trans first.launched
  msrs := by
    rcases first.msrs with same | ⟨unlocked, locked⟩
    · rcases second.msrs with same' | ⟨unlocked', locked'⟩
      · exact .inl (same'.trans same)
      · exact .inr ⟨(checkOutcome_congr first.cpuid same).symm.trans unlocked',
          locked'.trans (lockedMsrs_congr same .unlocked)⟩
    · rcases second.msrs with same' | ⟨unlocked', -⟩
      · exact .inr ⟨unlocked, same'.trans locked⟩
      · exact nomatch (checkOutcome_of_locked unlocked first.cpuid locked).symm.trans unlocked'

variable (residue : Residue before after)
include residue

/-- Whatever is configured from outside. -/
theorem configured (offset : Word) (failure : Option (BitVec 32)) :
    Residue (before.reconfigured offset failure) (after.reconfigured offset failure) := by
  have back : Residue (before.reconfigured offset failure) before :=
    .reconfigured (before.reconfigured offset failure) before.physicalOffset before.launchFailure
  exact (back.trans residue).trans (.reconfigured after offset failure)

/-- The MSRs other than IA32_FEATURE_CONTROL. -/
theorem msrs_of_ne {msr : Msr.Number} (h : msr ≠ Msr.featureControl) :
    after.msrs msr = before.msrs msr := by
  rcases residue.msrs with same | ⟨-, locked⟩
  · rw [same]
  · rw [locked, lockedMsrs_of_ne before .unlocked h]

theorem adjustedCr0 : after.adjustedCr0 = before.adjustedCr0 := by
  have fixed0 : Msr.cr0Fixed0 ≠ Msr.featureControl := by decide
  have fixed1 : Msr.cr0Fixed1 ≠ Msr.featureControl := by decide
  rw [SimulatedProcessor.adjustedCr0, SimulatedProcessor.adjustedCr0, residue.cr0,
    residue.msrs_of_ne fixed0, residue.msrs_of_ne fixed1]

theorem adjustedCr4 : after.adjustedCr4 = before.adjustedCr4 := by
  have fixed0 : Msr.cr4Fixed0 ≠ Msr.featureControl := by decide
  have fixed1 : Msr.cr4Fixed1 ≠ Msr.featureControl := by decide
  rw [SimulatedProcessor.adjustedCr4, SimulatedProcessor.adjustedCr4, residue.cr4,
    residue.msrs_of_ne fixed0, residue.msrs_of_ne fixed1]

theorem revisionId : after.revisionId = before.revisionId := by
  have basic : Msr.vmxBasic ≠ Msr.featureControl := by decide
  rw [SimulatedProcessor.revisionId, SimulatedProcessor.revisionId, residue.msrs_of_ne basic]

/-- A processor that is supported stays so, and ends with the same MSRs. -/
theorem supported (supported : before.checkOutcome = .ok featureControl) :
    ∃ featureControl', after.checkOutcome = .ok featureControl' ∧
      after.lockedMsrs featureControl' = before.lockedMsrs featureControl := by
  rcases residue.msrs with same | ⟨unlocked, locked⟩
  · exact ⟨featureControl, (checkOutcome_congr residue.cpuid same).trans supported,
      lockedMsrs_congr same featureControl⟩
  · obtain rfl := Except.ok.inj (unlocked.symm.trans supported)
    exact ⟨.enabled, checkOutcome_of_locked unlocked residue.cpuid locked, locked⟩

theorem unsupported {error : Error} (unsupported : before.checkOutcome = .error error) :
    after.checkOutcome = .error error := by
  rcases residue.msrs with same | ⟨unlocked, -⟩
  · exact (checkOutcome_congr residue.cpuid same).trans unsupported
  · exact nomatch unlocked.symm.trans unsupported

/-- What is left behind is as a rollback has to leave it. -/
theorem restoredTo : RestoredTo before after where
  cr0 := residue.cr0
  cr3 := residue.cr3
  cr4 := residue.cr4
  vmxOperation := residue.vmxOperation
  currentVmcs := residue.currentVmcs
  launched := residue.launched
  selectors := residue.selectors
  msrs _ ne := residue.msrs_of_ne ne
  featureControl := by
    rcases residue.msrs with same | ⟨unlocked, locked⟩
    · exact .inl (congrFun same _)
    · rw [locked]
      exact (restoredTo_rolledBack unlocked before.fields before.events).featureControl

end Residue

theorem residue_rolledBack (supported : cpu.checkOutcome = .ok featureControl)
    (fields : Vmcs.Field → Option Word) (events : List Event) :
    Residue cpu (cpu.rolledBack featureControl fields events) where
  cpuid := rfl
  cr0 := rfl
  cr3 := rfl
  cr4 := rfl
  rflags := rflags_enabled cpu.rflags
  selectors := rfl
  vmxOperation := rfl
  currentVmcs := rfl
  launched := rfl
  msrs := by
    cases featureControl with
    | enabled => exact .inl rfl
    | unlocked => exact .inr ⟨supported, rfl⟩

end SimulatedProcessor

namespace Vcpu

/-! ## The virtual processor -/

/-- What a virtual processor has in common with itself before failed attempts: everything but the
saved control registers and what bring-up writes to its memory. -/
structure Residue (before after : Vcpu) : Prop where
  index : after.index = before.index
  address : after.address = before.address
  stage : after.stage = before.stage
  base : after.memory.base = before.memory.base
  abortIndicator : after.memory.vmcs.abortIndicator = before.memory.vmcs.abortIndicator
  handlers : after.handlers = before.handlers
  intercepts : after.intercepts = before.intercepts

namespace Residue

theorem refl (vcpu : Vcpu) : Residue vcpu vcpu := ⟨rfl, rfl, rfl, rfl, rfl, rfl, rfl⟩

theorem trans {before after last : Vcpu} (first : Residue before after)
    (second : Residue after last) : Residue before last where
  index := second.index.trans first.index
  address := second.address.trans first.address
  stage := second.stage.trans first.stage
  base := second.base.trans first.base
  abortIndicator := second.abortIndicator.trans first.abortIndicator
  handlers := second.handlers.trans first.handlers
  intercepts := second.intercepts.trans first.intercepts

variable {before after : Vcpu} (residue : Residue before after)
include residue

theorem vmxonAddress : after.memory.vmxonAddress = before.memory.vmxonAddress := by
  rw [VcpuMemory.vmxonAddress, VcpuMemory.vmxonAddress, residue.base]

theorem vmcsAddress : after.memory.vmcsAddress = before.memory.vmcsAddress := by
  rw [VcpuMemory.vmcsAddress, VcpuMemory.vmcsAddress, residue.base]

theorem msrBitmapAddress : after.memory.msrBitmapAddress = before.memory.msrBitmapAddress := by
  rw [VcpuMemory.msrBitmapAddress, VcpuMemory.msrBitmapAddress, residue.base]

end Residue

variable {vcpu : Vcpu} {cpu : SimulatedProcessor}

/-- **A failed virtualization leaves a residue** of the processor and of the virtual processor. -/
theorem residue_of_failure {error : Error}
    (current : cpu.currentVmcs.isSome → cpu.vmxOperation = true) (off : vcpu.stage = .off)
    (fails : (hardware.execute vcpu cpu virtualize).outcome = .error error) :
    Residue vcpu (hardware.execute vcpu cpu virtualize).record ∧
      cpu.Residue (hardware.execute vcpu cpu virtualize).state := by
  obtain ⟨-, unchanged⟩ | ⟨featureControl, record, state, supported, ran, undone⟩ :=
    (virtualizeEnds vcpu cpu).of_error off fails
  · rw [unchanged]
    exact ⟨.refl vcpu, .refl cpu⟩
  · have bringUp := BringUpEnds.of_execute ran
    rw [undone, bringUp.undone_eq current]
    refine ⟨?_, SimulatedProcessor.residue_rolledBack supported _ _⟩
    cases bringUp with
    | unusableVmxon | refusedVmxon | unmappedVmcs | unmappedBitmap | failedLaunch =>
        exact ⟨rfl, rfl, off.symm, rfl, rfl, rfl, rfl⟩

/-! ## The outcome on a residue -/

/-- **A virtualization of a residue ends with the same outcome**, if the physical offset and the
launches that are made to fail are the same. -/
theorem outcome_residue {vcpu' : Vcpu} {cpu' : SimulatedProcessor} (vcpus : Residue vcpu vcpu')
    (cpus : cpu.Residue cpu') (offset : cpu'.physicalOffset = cpu.physicalOffset)
    (failure : cpu'.launchFailure = cpu.launchFailure) :
    (hardware.execute vcpu' cpu' virtualize).outcome
      = (hardware.execute vcpu cpu virtualize).outcome := by
  rw [outcome_eq_verdict, outcome_eq_verdict, verdict, verdict, vcpus.stage, vcpus.index,
    vcpus.vmxonAddress, vcpus.vmcsAddress, vcpus.msrBitmapAddress,
    SimulatedProcessor.pageAddress_congr offset,
    SimulatedProcessor.physicalAddress_congr offset,
    SimulatedProcessor.physicalAddress_congr offset, cpus.vmxOperation, cpus.adjustedCr4, failure]
  cases supported : cpu.checkOutcome with
  | error error => rw [cpus.unsupported supported]
  | ok featureControl =>
      obtain ⟨_, supported', -⟩ := cpus.supported supported
      rw [supported']
      cases cpu.pageAddress "VMXON" vcpu.memory.vmxonAddress <;> rfl

end Vcpu

end VtxMonitor
