import VtxMonitor.Proofs.Vcpu.Lifecycle

/-!
# Proofs/Vcpu/Teardown — which sequences of bring-up phases a teardown undoes

The phases of the bring-up can be called in any order, and each starts from what the ones before it
left, whatever they returned (`PhaseEnds`).  As long as the control registers are saved only once,
and before VMX operation is entered, the virtual processor describes its processor truthfully
(`Recorded`).  Saving them again takes the adjusted registers for the original ones and sets the
stage back, even in VMX operation (`Lost`).  **A teardown undoes a sequence of phases on every
processor exactly if they save the control registers at most once, and enter VMX operation only
behind that** (`teardown_undoes_iff`).
-/

namespace VtxMonitor

namespace SimulatedProcessor

/-- A processor outside of VMX operation, where no VMCS is current. -/
structure OutsideVmx (cpu : SimulatedProcessor) : Prop where
  off : cpu.vmxOperation = false
  current : cpu.currentVmcs = none

/-- Adjusting CR4 twice changes no more than adjusting it once. -/
theorem adjustedCr4_withVmxEnabled (cpu : SimulatedProcessor)
    (featureControl : FeatureControlState) :
    (cpu.withVmxEnabled featureControl).adjustedCr4 = cpu.adjustedCr4 := by
  have fixed : ∀ msr, msr ≠ Msr.featureControl →
      (cpu.withVmxEnabled featureControl).msrs msr = cpu.msrs msr :=
    fun _ => cpu.lockedMsrs_of_ne featureControl
  have again : (cpu.withVmxEnabled featureControl).cr4 = cpu.adjustedCr4 := rfl
  rw [adjustedCr4, again, fixed _ (by decide), fixed _ (by decide), adjustedCr4, Vcpu.fixedBits,
    Vcpu.fixedBits]
  ext i
  simp only [BitVec.getElem_or, BitVec.getElem_and]
  cases cpu.cr4[i] <;> cases cr4Vmxe[i] <;> cases (cpu.msrs Msr.cr4Fixed0)[i] <;>
    cases (cpu.msrs Msr.cr4Fixed1)[i] <;> rfl

end SimulatedProcessor

namespace Vcpu

variable {ended ended' : Execution Vcpu SimulatedProcessor Unit}

/-! ## Phases -/

/-- The operations that a bring-up consists of. -/
inductive Phase where
  | enableVmx (featureControl : FeatureControlState)
  | enterVmx
  | loadVmcs
  | prepare
deriving DecidableEq

namespace Phase

/-- The call of a phase. -/
def call : Phase → Call
  | .enableVmx featureControl => .enableVmx featureControl
  | .enterVmx => .enterVmx
  | .loadVmcs => .loadVmcs
  | .prepare => .prepare

/-- Whether a phase saves the control registers, and then adjusts them. -/
def saves : Phase → Bool
  | .enableVmx _ => true
  | _ => false

/-- Whether phases save the control registers at most once, and enter VMX operation only behind
that. -/
def orderly : List Phase → Bool
  | [] => true
  | .enableVmx _ :: rest => rest.all fun phase => !phase.saves
  | .enterVmx :: _ => false
  | .loadVmcs :: rest | .prepare :: rest => orderly rest

end Phase

/-- Phases one after the other, whatever each returns. -/
def afterPhases (ended : Execution Vcpu SimulatedProcessor Unit) (phases : List Phase) :
    Execution Vcpu SimulatedProcessor Unit :=
  afterCalls ended (phases.map Phase.call)

/-! ## What a phase does -/

/-- A call that at most stamps a region or records events. -/
structure Idle (ended ended' : Execution Vcpu SimulatedProcessor Unit) : Prop where
  stage : ended'.record.stage = ended.record.stage
  savedCr0 : ended'.record.savedCr0 = ended.record.savedCr0
  savedCr4 : ended'.record.savedCr4 = ended.record.savedCr4
  base : ended'.record.memory.base = ended.record.memory.base
  state : ended'.state = { ended.state with events := ended'.state.events }

/-- How a phase ends. -/
inductive PhaseEnds (ended : Execution Vcpu SimulatedProcessor Unit) :
    Phase → Execution Vcpu SimulatedProcessor Unit → Prop where
  | saved (featureControl : FeatureControlState) :
      PhaseEnds ended (.enableVmx featureControl)
        ⟨.ok (), ended.record.withVmxEnabled ended.state, ended.state.withVmxEnabled featureControl⟩
  | entered (vmxon : Word) (admits : ended.state.AdmitsVmxon) :
      PhaseEnds ended .enterVmx
        ⟨.ok (), (ended.record.vmxonStamped ended.state).atStage .vmxOn,
          ended.state.withVmxOn vmxon⟩
  | loaded (vmcs : Word) (on : ended.state.vmxOperation = true)
      (mapped : ended.state.physicalAddress ended.record.memory.vmcsAddress = some vmcs) :
      PhaseEnds ended .loadVmcs
        ⟨.ok (), (ended.record.vmcsStamped ended.state).atStage .vmcsLoaded,
          ended.state.withVmcsLoaded vmcs⟩
  | idle {phase : Phase} {ended' : Execution Vcpu SimulatedProcessor Unit}
      (keeps : phase.saves = false) (same : Idle ended ended') : PhaseEnds ended phase ended'

theorem stage_enableVmx (featureControl : FeatureControlState) :
    (afterCall ended (.enableVmx featureControl)).record.stage = .vmxEnabled := by
  rw [afterCall, Call.procedure, execute_enableVmx]
  rfl

theorem phaseEnds (ended : Execution Vcpu SimulatedProcessor Unit) (phase : Phase) :
    PhaseEnds ended phase (afterCall ended phase.call) := by
  cases phase with
  | enableVmx featureControl =>
      rw [Phase.call, afterCall, Call.procedure, execute_enableVmx]
      exact .saved featureControl
  | enterVmx =>
      rw [Phase.call, afterCall, Call.procedure, execute_enterVmx]
      cases ended.state.pageAddress "VMXON" ended.record.memory.vmxonAddress with
      | error error => exact .idle rfl ⟨rfl, rfl, rfl, rfl, rfl⟩
      | ok vmxon =>
          by_cases admits : ended.state.AdmitsVmxon
          · simp only [admits, if_true]
            exact .entered vmxon admits
          · simp only [admits, if_false]
            exact .idle rfl ⟨rfl, rfl, rfl, rfl, rfl⟩
  | loadVmcs =>
      rw [Phase.call, afterCall, Call.procedure]
      cases on : ended.state.vmxOperation with
      | true =>
          rw [execute_loadVmcs _ _ on]
          cases region : ended.state.pageAddress "VMCS" ended.record.memory.vmcsAddress with
          | error error => exact .idle rfl ⟨rfl, rfl, rfl, rfl, rfl⟩
          | ok vmcs => exact .loaded vmcs on (SimulatedProcessor.pageAddress_eq_ok.1 region).1
      | false =>
          rw [execute_loadVmcs_outside _ _ on]
          cases ended.state.pageAddress "VMCS" ended.record.memory.vmcsAddress with
          | error error => exact .idle rfl ⟨rfl, rfl, rfl, rfl, rfl⟩
          | ok vmcs => exact .idle rfl ⟨rfl, rfl, rfl, rfl, rfl⟩
  | prepare =>
      rw [Phase.call, afterCall, Call.procedure, Hardware.execute_owned, run_prepare]
      exact .idle rfl ⟨rfl, rfl, rfl, rfl, rfl⟩

/-- Once the bring-up has begun, no phase takes it back. -/
theorem PhaseEnds.begun {phase : Phase} (ends : PhaseEnds ended phase ended')
    (begun : ended.record.stage ≠ .off) : ended'.record.stage ≠ .off := by
  cases ends with
  | saved => exact nofun
  | entered => exact nofun
  | loaded => exact nofun
  | idle keeps same => exact same.stage ▸ begun

/-! ## Truthful records -/

/-- The virtual processor describes its processor, which had `cr0` and `cr4` to begin with. -/
structure Recorded (cr0 cr4 : Word) (ended : Execution Vcpu SimulatedProcessor Unit) : Prop where
  pending : ended.record.stage ≠ .launched
  on : ended.state.vmxOperation = ended.record.stage.reached .vmxOn
  current : ended.state.vmxOperation = false → ended.state.currentVmcs = none
  kept : ended.record.stage = .off → ended.state.cr0 = cr0 ∧ ended.state.cr4 = cr4
  saved : ended.record.stage ≠ .off → ended.record.savedCr0 = cr0 ∧ ended.record.savedCr4 = cr4

namespace Recorded

variable {cr0 cr4 : Word}

theorem congr (recorded : Recorded cr0 cr4 ended) (same : Idle ended ended') :
    Recorded cr0 cr4 ended' where
  pending := same.stage ▸ recorded.pending
  on := by
    rw [same.state, same.stage]
    exact recorded.on
  current := by
    rw [same.state]
    exact recorded.current
  kept := by
    rw [same.state, same.stage]
    exact recorded.kept
  saved := by
    rw [same.stage, same.savedCr0, same.savedCr4]
    exact recorded.saved

/-- **A phase that comes in its turn keeps the record truthful**: the control registers are saved at
the start, and VMX operation is entered behind that. -/
theorem afterPhase (recorded : Recorded cr0 cr4 ended) {phase : Phase}
    (saves : phase.saves = true → ended.record.stage = .off)
    (enters : phase = .enterVmx → ended.record.stage ≠ .off)
    (ends : PhaseEnds ended phase ended') : Recorded cr0 cr4 ended' := by
  have on := recorded.on
  cases ends with
  | saved featureControl =>
      have off := saves rfl
      rw [off] at on
      exact ⟨nofun, on, recorded.current, nofun, fun _ => recorded.kept off⟩
  | entered vmxon admits =>
      exact ⟨nofun, rfl, nofun, nofun, fun _ => recorded.saved (enters rfl)⟩
  | loaded vmcs isOn mapped =>
      have begun : ended.record.stage ≠ .off := by
        intro off
        rw [isOn, off] at on
        exact nomatch on
      refine ⟨nofun, isOn, fun outside => ?_, nofun, fun _ => recorded.saved begun⟩
      exact nomatch isOn.symm.trans outside
  | idle keeps same => exact recorded.congr same

/-- Behind the saving, phases that do not save again keep the record truthful. -/
theorem afterPhases_of_begun {phases : List Phase} (recorded : Recorded cr0 cr4 ended)
    (begun : ended.record.stage ≠ .off) (once : ∀ phase ∈ phases, phase.saves = false) :
    Recorded cr0 cr4 (afterPhases ended phases) := by
  induction phases generalizing ended with
  | nil => exact recorded
  | cons phase rest ih =>
      obtain ⟨keeps, once⟩ := List.forall_mem_cons.1 once
      have ends := phaseEnds ended phase
      have saves : phase.saves = true → ended.record.stage = .off := fun saves =>
        nomatch keeps.symm.trans saves
      exact ih (recorded.afterPhase saves (fun _ => begun) ends) (ends.begun begun) once

/-- Outside of VMX operation, the phases that neither save nor enter leave the stage alone. -/
theorem off_afterPhase (recorded : Recorded cr0 cr4 ended) {phase : Phase}
    (ends : PhaseEnds ended phase ended') (off : ended.record.stage = .off)
    (saves : phase.saves = false) (enters : phase ≠ .enterVmx) : ended'.record.stage = .off := by
  cases ends with
  | saved => exact nomatch saves
  | entered => exact absurd rfl enters
  | loaded vmcs on mapped =>
      have outside := recorded.on
      rw [off, on] at outside
      exact nomatch outside
  | idle keeps same => exact same.stage.trans off

/-- **Orderly phases keep the record truthful.** -/
theorem afterPhases {phases : List Phase} (recorded : Recorded cr0 cr4 ended)
    (off : ended.record.stage = .off) (orderly : Phase.orderly phases = true) :
    Recorded cr0 cr4 (afterPhases ended phases) := by
  induction phases generalizing ended with
  | nil => exact recorded
  | cons phase rest ih =>
      have ends := phaseEnds ended phase
      have saves : phase.saves = true → ended.record.stage = .off := fun _ => off
      cases phase with
      | enableVmx featureControl =>
          have once : ∀ phase ∈ rest, phase.saves = false := by
            simpa [Phase.orderly] using orderly
          have begun : (afterCall ended (.enableVmx featureControl)).record.stage ≠ .off := by
            rw [stage_enableVmx]
            exact nofun
          exact (recorded.afterPhase saves nofun ends).afterPhases_of_begun begun once
      | enterVmx => exact nomatch orderly
      | loadVmcs | prepare =>
          have next := recorded.off_afterPhase ends off rfl nofun
          exact ih (recorded.afterPhase saves nofun ends) next orderly

/-- **A truthful record is undone.** -/
theorem teardown (recorded : Recorded cr0 cr4 ended) :
    let left := afterCall ended .teardown
    left.record.stage = .off ∧ left.state.cr0 = cr0 ∧ left.state.cr4 = cr4 ∧
      left.state.OutsideVmx := by
  have on : ended.record.stage.reached .vmxOn → ended.state.vmxOperation = true := fun reached =>
    recorded.on.trans reached
  rw [afterCall, Call.procedure, Hardware.execute_owned, run_teardown _ _ recorded.pending on]
  cases stage : ended.record.stage with
  | off =>
      have outside : ended.state.vmxOperation = false := by rw [recorded.on, stage]; rfl
      obtain ⟨keptCr0, keptCr4⟩ := recorded.kept stage
      simp only [undone, stage, Stage.reached, Stage.rank]
      exact ⟨rfl, keptCr0, keptCr4, outside, recorded.current outside⟩
  | vmxEnabled =>
      have outside : ended.state.vmxOperation = false := by rw [recorded.on, stage]; rfl
      obtain ⟨savedCr0, savedCr4⟩ := recorded.saved (by simp [stage])
      rw [undone_of_vmxEnabled stage]
      exact ⟨rfl, savedCr0, savedCr4, outside, recorded.current outside⟩
  | vmxOn =>
      obtain ⟨savedCr0, savedCr4⟩ := recorded.saved (by simp [stage])
      rw [undone_of_vmxOn (.inl stage)]
      exact ⟨rfl, savedCr0, savedCr4, rfl, rfl⟩
  | vmcsLoaded =>
      obtain ⟨savedCr0, savedCr4⟩ := recorded.saved (by simp [stage])
      rw [undone_of_vmxOn (.inr stage)]
      exact ⟨rfl, savedCr0, savedCr4, rfl, rfl⟩
  | launched => exact absurd stage recorded.pending

end Recorded

/-! ## Records that went wrong -/

/-- The bring-up has begun on a processor that had `cr4` to begin with.  The VMCS region is not
mapped, and CR4 is adjusted if VMX operation is not entered yet. -/
structure Begun (cr4 : Word) (ended : Execution Vcpu SimulatedProcessor Unit) : Prop where
  begun : ended.record.stage ≠ .off
  pending : ended.record.stage ≠ .launched
  on : ended.record.stage.reached .vmxOn → ended.state.vmxOperation = true
  unmapped : ended.state.physicalAddress ended.record.memory.vmcsAddress = none
  changed : ended.state.vmxOperation = false → ended.state.cr4 ≠ cr4
  adjusted : ended.state.vmxOperation = false → ended.state.adjustedCr4 = ended.state.cr4

/-- What was saved is not what the processor had to begin with, or the stage says nothing of the VMX
operation that the processor is in. -/
structure Lost (cr4 : Word) (ended : Execution Vcpu SimulatedProcessor Unit) : Prop
    extends Begun cr4 ended where
  lost : (ended.record.stage = .vmxEnabled ∧ ended.state.vmxOperation = true) ∨
    ended.record.savedCr4 ≠ cr4

section Wrong

variable {cr4 : Word}

/-- The region of a virtual processor stays where it is. -/
theorem Idle.unmapped (same : Idle ended ended')
    (unmapped : ended.state.physicalAddress ended.record.memory.vmcsAddress = none) :
    ended'.state.physicalAddress ended'.record.memory.vmcsAddress = none := by
  have offset : ended'.state.physicalOffset = ended.state.physicalOffset := by rw [same.state]
  rw [SimulatedProcessor.physicalAddress_congr offset, VcpuMemory.vmcsAddress, same.base]
  exact unmapped

namespace Begun

theorem congr (before : Begun cr4 ended) (same : Idle ended ended') : Begun cr4 ended' where
  begun := same.stage ▸ before.begun
  pending := same.stage ▸ before.pending
  on := by
    rw [same.state, same.stage]
    exact before.on
  unmapped := same.unmapped before.unmapped
  changed := by
    rw [same.state]
    exact before.changed
  adjusted := by
    rw [same.state]
    exact before.adjusted

/-- Saving the control registers and adjusting them. -/
theorem enabled (featureControl : FeatureControlState)
    (unmapped : ended.state.physicalAddress ended.record.memory.vmcsAddress = none)
    (changed : ended.state.vmxOperation = false → ended.state.adjustedCr4 ≠ cr4) :
    Begun cr4 ⟨.ok (), ended.record.withVmxEnabled ended.state,
      ended.state.withVmxEnabled featureControl⟩ where
  begun := nofun
  pending := nofun
  on := nofun
  unmapped := unmapped
  changed := changed
  adjusted _ := ended.state.adjustedCr4_withVmxEnabled featureControl

/-- **Saving the control registers again loses the original ones**, or the VMX operation that the
processor is in. -/
theorem saved (before : Begun cr4 ended) (featureControl : FeatureControlState) :
    Lost cr4 ⟨.ok (), ended.record.withVmxEnabled ended.state,
      ended.state.withVmxEnabled featureControl⟩ where
  toBegun := by
    refine .enabled featureControl before.unmapped fun outside => ?_
    rw [before.adjusted outside]
    exact before.changed outside
  lost := by
    cases on : ended.state.vmxOperation with
    | true => exact .inl ⟨rfl, on⟩
    | false => exact .inr (before.changed on)

/-- Entering VMX operation, after which CR4 matters no more. -/
theorem entered (vmxon : Word)
    (unmapped : ended.state.physicalAddress ended.record.memory.vmcsAddress = none) :
    Begun cr4 ⟨.ok (), (ended.record.vmxonStamped ended.state).atStage .vmxOn,
      ended.state.withVmxOn vmxon⟩ where
  begun := nofun
  pending := nofun
  on _ := rfl
  unmapped := unmapped
  changed := nofun
  adjusted := nofun

theorem afterPhase (before : Begun cr4 ended) {phase : Phase}
    (ends : PhaseEnds ended phase ended') : Begun cr4 ended' := by
  cases ends with
  | saved featureControl => exact (before.saved featureControl).toBegun
  | entered vmxon admits => exact .entered vmxon before.unmapped
  | loaded vmcs on mapped => exact nomatch before.unmapped.symm.trans mapped
  | idle keeps same => exact before.congr same

end Begun

namespace Lost

theorem afterPhase (before : Lost cr4 ended) {phase : Phase}
    (ends : PhaseEnds ended phase ended') : Lost cr4 ended' := by
  have begun := before.toBegun.afterPhase ends
  cases ends with
  | saved featureControl => exact before.toBegun.saved featureControl
  | entered vmxon admits =>
      have outside : ended.state.vmxOperation ≠ true := by
        rw [admits.1]
        exact nofun
      exact ⟨begun, .inr (before.lost.resolve_left fun on => outside on.2)⟩
  | loaded vmcs on mapped => exact nomatch before.unmapped.symm.trans mapped
  | idle keeps same =>
      refine ⟨begun, ?_⟩
      rw [same.state, same.stage, same.savedCr4]
      exact before.lost

theorem afterPhases (before : Lost cr4 ended) (phases : List Phase) :
    Lost cr4 (afterPhases ended phases) := by
  induction phases generalizing ended with
  | nil => exact before
  | cons phase rest ih => exact ih (before.afterPhase (phaseEnds ended phase))

/-- **What is lost is not undone.** -/
theorem teardown (before : Lost cr4 ended) :
    let left := afterCall ended .teardown
    left.state.cr4 ≠ cr4 ∨ ¬left.state.OutsideVmx := by
  rw [afterCall, Call.procedure, Hardware.execute_owned, run_teardown _ _ before.pending before.on]
  have restored : (ended.record.undone ended.state).cr4 = ended.record.savedCr4 := by
    cases stage : ended.record.stage with
    | off => exact absurd stage before.begun
    | _ => simp only [undone, stage, Stage.reached, Stage.rank]; rfl
  rcases before.lost with ⟨stage, on⟩ | other
  · refine .inr fun outside => ?_
    have off := outside.off
    rw [undone_of_vmxEnabled stage] at off
    exact Bool.false_ne_true (off.symm.trans on)
  · exact .inl (restored ▸ other)

end Lost

/-- **Saving the control registers again loses what the processor had.** -/
theorem Begun.lost_of_saves (before : Begun cr4 ended) {phase : Phase} (saves : phase.saves = true)
    (ends : PhaseEnds ended phase ended') : Lost cr4 ended' := by
  cases ends with
  | saved featureControl => exact before.saved featureControl
  | entered | loaded => exact nomatch saves
  | idle keeps => exact nomatch keeps.symm.trans saves

theorem Begun.lost (before : Begun cr4 ended) {phases : List Phase}
    (again : ∃ phase ∈ phases, phase.saves = true) : Lost cr4 (afterPhases ended phases) := by
  induction phases generalizing ended with
  | nil => exact nomatch again
  | cons phase rest ih =>
      have ends := phaseEnds ended phase
      cases saves : phase.saves with
      | true => exact (before.lost_of_saves saves ends).afterPhases rest
      | false =>
          refine ih (before.afterPhase ends) ?_
          obtain ⟨later, mem, saves'⟩ := again
          rcases List.mem_cons.1 mem with rfl | mem
          · exact nomatch saves.symm.trans saves'
          · exact ⟨later, mem, saves'⟩

/-! ## A processor on which every disorder shows -/

/-- A processor that admits VMXON though its CR4 needs adjusting, and a virtual processor in stage
`off` of which the VMXON region is mapped and the VMCS region is not. -/
structure Treacherous (cr4 : Word) (ended : Execution Vcpu SimulatedProcessor Unit) : Prop where
  stage : ended.record.stage = .off
  admits : ended.state.AdmitsVmxon
  original : ended.state.cr4 = cr4
  adjusts : ended.state.adjustedCr4 ≠ cr4
  unsaved : ended.record.savedCr4 ≠ cr4
  region : ∃ vmxon, ended.state.pageAddress "VMXON" ended.record.memory.vmxonAddress = .ok vmxon
  unmapped : ended.state.physicalAddress ended.record.memory.vmcsAddress = none

namespace Treacherous

theorem congr (before : Treacherous cr4 ended) (same : Idle ended ended') :
    Treacherous cr4 ended' where
  stage := same.stage.trans before.stage
  admits := by
    rw [same.state]
    exact before.admits
  original := by
    rw [same.state]
    exact before.original
  adjusts := by
    rw [same.state]
    exact before.adjusts
  unsaved := same.savedCr4 ▸ before.unsaved
  region := by
    have offset : ended'.state.physicalOffset = ended.state.physicalOffset := by rw [same.state]
    rw [SimulatedProcessor.pageAddress_congr offset, VcpuMemory.vmxonAddress, same.base]
    exact before.region
  unmapped := same.unmapped before.unmapped

/-- Saving the control registers for the first time. -/
theorem saved (before : Treacherous cr4 ended) (featureControl : FeatureControlState) :
    Begun cr4 (afterCall ended (.enableVmx featureControl)) := by
  rw [afterCall, Call.procedure, execute_enableVmx]
  exact .enabled featureControl before.unmapped fun _ => before.adjusts

/-- Entering VMX operation with nothing saved. -/
theorem entered (before : Treacherous cr4 ended) : Lost cr4 (afterCall ended .enterVmx) := by
  obtain ⟨vmxon, region⟩ := before.region
  rw [afterCall, Call.procedure, execute_enterVmx, region]
  simp only [before.admits, if_true]
  exact ⟨.entered vmxon before.unmapped, .inr before.unsaved⟩

/-- Without saving or entering, nothing happens. -/
theorem afterPhase (before : Treacherous cr4 ended) {phase : Phase}
    (ends : PhaseEnds ended phase ended') (saves : phase.saves = false)
    (enters : phase ≠ .enterVmx) : Treacherous cr4 ended' := by
  cases ends with
  | saved => exact nomatch saves
  | entered => exact absurd rfl enters
  | loaded vmcs on mapped => exact nomatch before.unmapped.symm.trans mapped
  | idle keeps same => exact before.congr same

/-- **Every disorder loses something.** -/
theorem lost (before : Treacherous cr4 ended) {phases : List Phase}
    (disorder : Phase.orderly phases = false) : Lost cr4 (afterPhases ended phases) := by
  induction phases generalizing ended with
  | nil => exact nomatch disorder
  | cons phase rest ih =>
      have ends := phaseEnds ended phase
      cases phase with
      | enableVmx featureControl =>
          have again : ∃ phase ∈ rest, phase.saves = true := by
            simpa [Phase.orderly] using disorder
          exact (before.saved featureControl).lost again
      | enterVmx => exact before.entered.afterPhases rest
      | loadVmcs | prepare => exact ih (before.afterPhase ends rfl nofun) disorder

end Treacherous

end Wrong

/-! ## What a teardown undoes -/

/-- Behind phases, a teardown leaves the virtual processor in stage `off`, and the processor with
its control registers outside of VMX operation. -/
def Undoes (vcpu : Vcpu) (cpu : SimulatedProcessor) (phases : List Phase) : Prop :=
  let left := afterCalls ⟨.ok (), vcpu, cpu⟩ (phases.map Phase.call ++ [.teardown])
  left.record.stage = .off ∧ left.state.cr0 = cpu.cr0 ∧ left.state.cr4 = cpu.cr4 ∧
    left.state.OutsideVmx

theorem afterCalls_teardown (phases : List Phase) :
    afterCalls ended (phases.map Phase.call ++ [.teardown])
      = afterCall (afterPhases ended phases) .teardown := by
  rw [afterCalls, List.foldl_append]
  rfl

/-- Reset, with a bit of CR4 set that VMX operation does not allow, and with physical memory that
ends behind the VMXON region. -/
def treacherousProcessor : SimulatedProcessor :=
  { SimulatedProcessor.reset with cr4 := 0x372ef8, physicalOffset := 0xfffffffffffe9000 }

theorem treacherous_fresh :
    Treacherous 0x372ef8 ⟨.ok (), fresh 0 0x1c000 0x10000 .empty {}, treacherousProcessor⟩ where
  stage := rfl
  admits := by decide
  original := rfl
  adjusts := by decide
  unsaved := by decide
  region := ⟨0xfffffffffffff000, rfl⟩
  unmapped := rfl

/-- **What a teardown undoes.**  On every processor outside of VMX operation, and for every virtual
processor in stage `off`, a teardown behind phases of the bring-up leaves stage `off`, the original
CR0 and CR4 and no VMX operation, whatever each of the phases returned, exactly if the phases save
the control registers at most once and enter VMX operation only behind that. -/
theorem teardown_undoes_iff (phases : List Phase) :
    (∀ (vcpu : Vcpu) (cpu : SimulatedProcessor), vcpu.stage = .off → cpu.OutsideVmx →
      Undoes vcpu cpu phases) ↔ Phase.orderly phases = true := by
  constructor
  · intro undoes
    rw [← Bool.not_eq_false]
    intro disorder
    have left := (treacherous_fresh.lost disorder).teardown
    rw [← afterCalls_teardown] at left
    obtain ⟨-, -, cr4, outside⟩ :=
      undoes (fresh 0 0x1c000 0x10000 .empty {}) treacherousProcessor rfl ⟨rfl, rfl⟩
    rcases left with changed | inside
    · exact changed cr4
    · exact inside outside
  · intro orderly vcpu cpu off outside
    have recorded : Recorded cpu.cr0 cpu.cr4 ⟨.ok (), vcpu, cpu⟩ :=
      ⟨by rw [off]; exact nofun, by rw [outside.off, off]; rfl, fun _ => outside.current,
        fun _ => ⟨rfl, rfl⟩, fun begun => absurd off begun⟩
    rw [Undoes, afterCalls_teardown]
    exact (recorded.afterPhases off orderly).teardown

/-- After reset, adjusting the control registers twice leaves CR4.VMXE set behind a teardown, and
adjusting them in VMX operation leaves the processor there with a virtual processor in stage
`off`. -/
theorem teardown_forgets_reset :
    let created : Execution Vcpu SimulatedProcessor Unit :=
      ⟨.ok (), fresh 0 0x1c000 0x10000 .empty {}, .reset⟩
    let twice := afterCalls created [.enableVmx .enabled, .enableVmx .enabled, .teardown]
    let inside := afterCalls created [.enableVmx .enabled, .enterVmx, .enableVmx .enabled, .teardown]
    twice.record.stage = .off ∧ twice.state.cr4 ≠ SimulatedProcessor.reset.cr4 ∧
      inside.record.stage = .off ∧ inside.state.vmxOperation = true := by
  decide +kernel

end Vcpu

end VtxMonitor
