import VtxMonitor.Proofs.Vcpu.Outcome

/-!
# Proofs/Vcpu/InterruptFlag — a bring-up enables interrupts, whether or not they were enabled

The control registers are adjusted, and written back, with interrupts disabled, and each time
interrupts are enabled afterwards.  The caller of a virtualization goes on with `callerRflags`: the
RFLAGS of the processor after a failure, those of the guest-state area as the guest.  **It finds
its own RFLAGS there exactly if interrupts were enabled or no step was done**, and otherwise its
RFLAGS with the interrupt flag set (`virtualize_callerRflags`).
-/

namespace VtxMonitor.Vcpu

open SimulatedProcessor (hardware)

variable {vcpu : Vcpu} {cpu : SimulatedProcessor} {featureControl : FeatureControlState}

/-! ## The interrupt flag -/

/-- Enabling interrupts changes nothing exactly if they are enabled. -/
theorem rflags_enabled_eq_self :
    cpu.rflags ||| rflagsIf = cpu.rflags ↔ cpu.interruptsEnabled = true := by
  have bit : rflagsIf = BitVec.twoPow 64 9 := by decide
  have enabled : cpu.interruptsEnabled = true ↔ cpu.rflags.getLsbD 9 = true := by
    rw [SimulatedProcessor.interruptsEnabled, decide_eq_true_iff, bit, ne_eq,
      and_twoPow_eq_zero (by decide), Bool.not_eq_false]
  rw [enabled, bit]
  constructor
  · intro same
    rw [← same, BitVec.getLsbD_or]
    exact Bool.or_true _
  · intro set
    refine BitVec.eq_of_getLsbD_eq fun i _ => ?_
    rw [BitVec.getLsbD_or, BitVec.getLsbD_twoPow]
    by_cases same : 9 = i
    · rw [← same, set]
      rfl
    · simp [same]

/-! ## What the guest starts with -/

/-- A VMCS that is filled completely holds the processor at that time as its guest. -/
theorem FillsVmcs.snapshot {vmxon vmcs bitmap : Word} {fields : Vmcs.Field → Option Word}
    (fills : FillsVmcs vcpu cpu featureControl vmxon vmcs fields)
    (mapped : cpu.physicalAddress vcpu.memory.msrBitmapAddress = some bitmap) :
    let filling := fillingProcessor cpu featureControl vmxon vmcs
    hardware.GuestSnapshot filling (filling.withFields fields).word := by
  intro filling
  have current : filling.currentVmcs.isSome := rfl
  have address : filling.physicalAddress (vcpu.filling cpu).memory.msrBitmapAddress
      = some bitmap :=
    (SimulatedProcessor.physicalAddress_congr
      (offset_fillingProcessor cpu featureControl vmxon vmcs) _).trans mapped
  rw [← fills.populated]
  exact SimulatedProcessor.snapshot_populate current address

/-! ## What the caller goes on with -/

/-- The RFLAGS that the caller of a virtualization goes on with: those of the processor after a
failure, and those in the guest-state area as the guest. -/
def callerRflags (execution : Execution Vcpu SimulatedProcessor Unit) : Option Word :=
  match execution.outcome with
  | .error _ => some execution.state.rflags
  | .ok () => execution.state.fields .guestRflags

theorem BringUpEnds.callerRflags_of_ok {record : Vcpu} {state : SimulatedProcessor}
    (ends : BringUpEnds vcpu cpu featureControl ⟨.ok (), record, state⟩) :
    state.fields .guestRflags = some (cpu.rflags ||| rflagsIf) := by
  cases ends with
  | @launched vmxon vmcs _ fields fills mapped =>
      have copied : (fields .guestRflags).getD 0 = cpu.rflags ||| rflagsIf :=
        (fills.snapshot mapped).rflags
      -- A field that was never stored would be zero.
      cases stored : fields .guestRflags with
      | none =>
          rw [stored] at copied
          have zero := (BitVec.or_eq_zero_iff.1 copied.symm).2
          exact absurd zero (by decide)
      | some value =>
          rw [stored] at copied
          exact stored.trans (congrArg some copied)

/-- Wherever a bring-up fails, interrupts are enabled once more behind it. -/
theorem BringUpEnds.undone_rflags {error : Error} {record : Vcpu} {state : SimulatedProcessor}
    (fails : BringUpEnds vcpu cpu featureControl ⟨.error error, record, state⟩) :
    (record.undone state).rflags = cpu.rflags ||| rflagsIf := by
  cases fails with
  | unusableVmxon | refusedVmxon | unmappedVmcs | unmappedBitmap | failedLaunch =>
      exact SimulatedProcessor.rflags_enabled cpu.rflags

/-- Whether a virtualization gets as far as its bring-up. -/
def Begins (vcpu : Vcpu) (cpu : SimulatedProcessor) : Prop :=
  vcpu.stage = .off ∧ ∃ featureControl, (hardware.run Support.check.run cpu).1 = .ok featureControl

/-- A virtualization that begins its bring-up enables interrupts, and one that does not leaves them
as they are. -/
theorem callerRflags_execute :
    Begins vcpu cpu ∧
        callerRflags (hardware.execute vcpu cpu virtualize) = some (cpu.rflags ||| rflagsIf) ∨
      ¬Begins vcpu cpu ∧
        callerRflags (hardware.execute vcpu cpu virtualize) = some cpu.rflags := by
  have begins : Begins vcpu cpu ↔
      vcpu.stage = .off ∧ ∃ featureControl, cpu.checkOutcome = .ok featureControl := by
    rw [Begins, SimulatedProcessor.run_check]
  have ends := virtualizeEnds vcpu cpu
  rw [begins]
  revert ends
  generalize hardware.execute vcpu cpu virtualize = execution
  intro ends
  cases ends with
  | alreadyVirtualized busy => exact .inr ⟨fun begun => busy begun.1, rfl⟩
  | unsupported off fails =>
      refine .inr ⟨fun ⟨_, featureControl, supported⟩ => ?_, rfl⟩
      exact nomatch fails.symm.trans supported
  | rolledBack off supported ran =>
      have enabled := (BringUpEnds.of_execute ran).undone_rflags
      exact .inl ⟨⟨off, _, supported⟩, congrArg some enabled⟩
  | launched off supported ran =>
      exact .inl ⟨⟨off, _, supported⟩, (BringUpEnds.of_execute ran).callerRflags_of_ok⟩

/-- **Which RFLAGS the caller of a virtualization goes on with**, as the guest or after a failure:
once the bring-up begins, its own with the interrupt flag set, whatever that flag was.  It gets its
own back exactly if interrupts were enabled before or the bring-up never began. -/
theorem virtualize_callerRflags (vcpu : Vcpu) (cpu : SimulatedProcessor) :
    let caller := callerRflags (hardware.execute vcpu cpu virtualize)
    (Begins vcpu cpu → caller = some (cpu.rflags ||| rflagsIf)) ∧
      (caller = some cpu.rflags ↔ (Begins vcpu cpu → cpu.interruptsEnabled = true)) := by
  intro caller
  obtain ⟨begun, enabled⟩ | ⟨idle, kept⟩ := @callerRflags_execute vcpu cpu
  · refine ⟨fun _ => enabled, ?_⟩
    rw [show caller = _ from enabled, Option.some.injEq, rflags_enabled_eq_self]
    exact ⟨fun h _ => h, fun h => h begun⟩
  · exact ⟨fun begun => absurd begun idle, fun _ begun => absurd begun idle, fun _ => kept⟩

/-- With interrupts disabled after reset, the guest starts with interrupts enabled, and after a
failed launch the processor has them enabled. -/
theorem rflags_changed_by_virtualize :
    let cpu := { SimulatedProcessor.reset with rflags := 0x46 }
    let launched := hardware.execute (fresh 0 0x1c000 0x10000 .empty {}) cpu virtualize
    let failed := hardware.execute (fresh 0 0x1c000 0x10000 .empty {})
      { cpu with launchFailure := some 7 } virtualize
    launched.outcome = .ok () ∧ launched.state.fields .guestRflags = some 0x246 ∧
      failed.outcome = .error (.launchFailed (.ofCode 7)) ∧ failed.state.rflags = 0x246 := by
  refine ⟨rfl, rfl, rfl, rfl⟩

end VtxMonitor.Vcpu
