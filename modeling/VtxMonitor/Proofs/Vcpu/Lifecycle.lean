import VtxMonitor.Proofs.Vcpu.Identity
import VtxMonitor.Proofs.Vcpu.Outcome
import VtxMonitor.Proofs.Vcpu.Rollback

/-!
# Proofs/Vcpu/Lifecycle — which operations move a launched virtual processor out of its stage

The public operations of a virtual processor can be called in any order, and each call starts from
what the ones before it left, whatever they returned (`Call`, `afterCalls`).  While the guest runs,
two of them set the stage without looking at it: adjusting the control registers and loading the
VMCS.  **A virtual processor stays launched, with its VMCS current, exactly through the calls that
are neither** (`launched_kept_iff`).  Once the VMCS is loaded again, a teardown takes it away from
the guest that runs from it (`RunsFrom.teardown_after_loadVmcs`).
-/

namespace VtxMonitor.Vcpu

open SimulatedProcessor (hardware)

variable {vcpu : Vcpu} {cpu : SimulatedProcessor}

/-! ## Calls -/

/-- The public operations of a virtual processor. -/
inductive Call where
  | virtualize
  | enableVmx (featureControl : FeatureControlState)
  | enterVmx
  | loadVmcs
  | prepare
  | teardown
deriving DecidableEq

namespace Call

/-- What is run for a call. -/
def procedure : Call → Fallible Vcpu Unit
  | .virtualize => Vcpu.virtualize
  | .enableVmx featureControl => liftM (Vcpu.enableVmx featureControl)
  | .enterVmx => Vcpu.enterVmx
  | .loadVmcs => Vcpu.loadVmcs
  | .prepare => liftM Vcpu.prepare
  | .teardown => liftM Vcpu.teardown

theorem procedure_keeps (call : Call) : call.procedure.Keeps identity := by
  cases call with
  | virtualize => exact virtualize_keeps
  | enableVmx featureControl => exact enableVmx_keeps featureControl
  | enterVmx => exact enterVmx_keeps identity_lasting
  | loadVmcs => exact loadVmcs_keeps identity_lasting
  | prepare => exact prepare_keeps identity_lasting
  | teardown => exact teardown_keeps

/-- The calls that set the stage even while the guest runs. -/
def setsStage : Call → Bool
  | .enableVmx _ | .loadVmcs => true
  | _ => false

end Call

/-- A call on what earlier ones left. -/
def afterCall (ended : Execution Vcpu SimulatedProcessor Unit) (call : Call) :
    Execution Vcpu SimulatedProcessor Unit :=
  hardware.execute ended.record ended.state call.procedure

/-- Calls one after the other, whatever each returns. -/
def afterCalls (ended : Execution Vcpu SimulatedProcessor Unit) (calls : List Call) :
    Execution Vcpu SimulatedProcessor Unit :=
  calls.foldl afterCall ended

/-- **Whatever is called, the virtual processor keeps what it was created with.** -/
theorem identity_afterCalls (ended : Execution Vcpu SimulatedProcessor Unit) (calls : List Call) :
    (afterCalls ended calls).record.identity = ended.record.identity := by
  induction calls generalizing ended with
  | nil => rfl
  | cons call rest ih =>
      exact (ih (afterCall ended call)).trans (call.procedure_keeps _ hardware _ _)

/-! ## While the guest runs -/

/-- The guest runs from the virtual processor's own VMCS, at the physical address `vmcs`. -/
structure RunsFrom (vmcs : Word) (ended : Execution Vcpu SimulatedProcessor Unit) : Prop where
  stage : ended.record.stage = .launched
  on : ended.state.vmxOperation = true
  region : ended.state.pageAddress "VMCS" ended.record.memory.vmcsAddress = .ok vmcs
  current : ended.state.currentVmcs = some vmcs
  guest : ended.state.launched = true

/-- A successful virtualization leaves the guest running from its own VMCS. -/
theorem runsFrom_of_virtualize
    (succeeds : (hardware.execute vcpu cpu virtualize).outcome = .ok ()) :
    RunsFrom (vcpu.memory.vmcsAddress + cpu.physicalOffset)
      (hardware.execute vcpu cpu virtualize) := by
  obtain ⟨featureControl, -, -, ran⟩ := (virtualizeEnds vcpu cpu).of_ok succeeds
  obtain ⟨vmxon, vmcs, fields, fills, ended⟩ := (BringUpEnds.of_execute ran).of_ok succeeds
  obtain ⟨-, address⟩ := SimulatedProcessor.physicalAddress_eq_some.1 fills.vmcsMapped
  have offset : (((fillingProcessor cpu featureControl vmxon vmcs).withFields
      fields).withLaunched).physicalOffset = cpu.physicalOffset := rfl
  have region := (SimulatedProcessor.pageAddress_congr offset "VMCS" _).trans
    (fills.vmcsRegion fills.vmcsMapped)
  rw [ended, ← address]
  exact ⟨rfl, rfl, region, rfl, rfl⟩

namespace RunsFrom

variable {vmcs : Word} {ended ended' : Execution Vcpu SimulatedProcessor Unit}

/-- What it takes for the guest to go on from the same VMCS. -/
theorem congr (runs : RunsFrom vmcs ended) (stage : ended'.record.stage = ended.record.stage)
    (base : ended'.record.memory.base = ended.record.memory.base)
    (on : ended'.state.vmxOperation = ended.state.vmxOperation)
    (offset : ended'.state.physicalOffset = ended.state.physicalOffset)
    (current : ended'.state.currentVmcs = ended.state.currentVmcs)
    (guest : ended'.state.launched = ended.state.launched) : RunsFrom vmcs ended' where
  stage := stage.trans runs.stage
  on := on.trans runs.on
  region := by
    rw [SimulatedProcessor.pageAddress_congr offset, VcpuMemory.vmcsAddress, base]
    exact runs.region
  current := current.trans runs.current
  guest := guest.trans runs.guest

/-- A call that does not set the stage leaves the guest running from the same VMCS. -/
theorem afterCall (runs : RunsFrom vmcs ended) {call : Call} (keeps : call.setsStage = false) :
    RunsFrom vmcs (afterCall ended call) := by
  cases call with
  | enableVmx featureControl => exact nomatch keeps
  | loadVmcs => exact nomatch keeps
  | virtualize =>
      have busy : ended.record.stage ≠ .off := by
        rw [runs.stage]
        exact nofun
      rw [Vcpu.afterCall, Call.procedure, execute_virtualize_of_busy busy]
      exact runs.congr rfl rfl rfl rfl rfl rfl
  | enterVmx =>
      -- VMXON is refused in VMX operation, so the stage behind it is never reached.
      have refused : ¬ended.state.AdmitsVmxon := fun admits =>
        Bool.false_ne_true (admits.1.symm.trans runs.on)
      rw [Vcpu.afterCall, Call.procedure, execute_enterVmx]
      cases ended.state.pageAddress "VMXON" ended.record.memory.vmxonAddress with
      | error error => exact runs.congr rfl rfl rfl rfl rfl rfl
      | ok vmxon =>
          simp only [refused, if_false]
          exact runs.congr rfl rfl rfl rfl rfl rfl
  | prepare =>
      rw [Vcpu.afterCall, Call.procedure, Hardware.execute_owned, run_prepare]
      exact runs.congr rfl rfl rfl rfl rfl rfl
  | teardown =>
      rw [Vcpu.afterCall, Call.procedure, Hardware.execute_owned,
        run_teardown_of_launched _ _ runs.stage]
      exact runs.congr rfl rfl rfl rfl rfl rfl

/-- Loading the VMCS again succeeds while the guest runs. -/
theorem afterCall_loadVmcs (runs : RunsFrom vmcs ended) :
    Vcpu.afterCall ended .loadVmcs
      = ⟨.ok (), (ended.record.vmcsStamped ended.state).atStage .vmcsLoaded,
          ended.state.withVmcsLoaded vmcs⟩ := by
  rw [Vcpu.afterCall, Call.procedure, execute_loadVmcs _ _ runs.on, runs.region]

/-- A call that sets the stage does so while the guest runs. -/
theorem stage_afterCall (runs : RunsFrom vmcs ended) {call : Call} (sets : call.setsStage = true) :
    (Vcpu.afterCall ended call).record.stage ≠ .launched := by
  cases call with
  | enableVmx featureControl =>
      rw [Vcpu.afterCall, Call.procedure, execute_enableVmx]
      exact nofun
  | loadVmcs =>
      rw [runs.afterCall_loadVmcs]
      exact nofun
  | virtualize | enterVmx | prepare | teardown => exact nomatch sets

/-- Calls that do not set the stage leave the guest running from the same VMCS. -/
theorem afterCalls (runs : RunsFrom vmcs ended) {calls : List Call}
    (keep : ∀ call ∈ calls, call.setsStage = false) : RunsFrom vmcs (afterCalls ended calls) := by
  induction calls generalizing ended with
  | nil => exact runs
  | cons call rest ih =>
      obtain ⟨keeps, keep⟩ := List.forall_mem_cons.1 keep
      exact ih (runs.afterCall keeps) keep

/-- If the stage stays `launched` all along, then no call sets it. -/
theorem keep_of_stage (runs : RunsFrom vmcs ended) {calls : List Call}
    (launched : ∀ before, before <+: calls →
      (Vcpu.afterCalls ended before).record.stage = .launched) :
    ∀ call ∈ calls, call.setsStage = false := by
  induction calls generalizing ended with
  | nil => exact nofun
  | cons call rest ih =>
      have keeps : call.setsStage = false := by
        refine Bool.eq_false_iff.2 fun sets => runs.stage_afterCall sets ?_
        exact launched [call] ⟨rest, rfl⟩
      refine List.forall_mem_cons.2 ⟨keeps, ih (runs.afterCall keeps) fun before isPrefix => ?_⟩
      exact launched (call :: before) (List.cons_prefix_cons.2 ⟨rfl, isPrefix⟩)

/-- **Behind a VMCS that is loaded again, a teardown leaves the guest without its VMCS**, and the
virtual processor in a stage in which its memory is given back. -/
theorem teardown_after_loadVmcs (runs : RunsFrom vmcs ended) :
    let left := Vcpu.afterCalls ended [.loadVmcs, .teardown]
    left.record.stage = .off ∧ left.state.currentVmcs = none ∧ left.state.launched = true := by
  have left : Vcpu.afterCalls ended [.loadVmcs, .teardown]
      = Vcpu.afterCall (Vcpu.afterCall ended .loadVmcs) .teardown := rfl
  have pending : ((ended.record.vmcsStamped ended.state).atStage .vmcsLoaded).stage ≠ .launched :=
    nofun
  have on : (ended.state.withVmcsLoaded vmcs).vmxOperation = true := runs.on
  rw [left, runs.afterCall_loadVmcs, Vcpu.afterCall, Call.procedure, Hardware.execute_owned,
    run_teardown _ _ pending fun _ => on, undone_of_vmxOn (.inr rfl)]
  exact ⟨rfl, rfl, runs.guest⟩

end RunsFrom

/-! ## Staying launched -/

/-- **How long a virtual processor stays launched**: through a sequence of calls, whatever they
return, it is in stage `launched` with its own VMCS current all along exactly if no call adjusts the
control registers and none loads the VMCS. -/
theorem launched_kept_iff (calls : List Call)
    (succeeds : (hardware.execute vcpu cpu virtualize).outcome = .ok ()) :
    (∀ before, before <+: calls →
      let ended := afterCalls (hardware.execute vcpu cpu virtualize) before
      ended.record.stage = .launched ∧
        ended.state.currentVmcs = some (vcpu.memory.vmcsAddress + cpu.physicalOffset)) ↔
    ∀ call ∈ calls, call ≠ .loadVmcs ∧ ∀ featureControl, call ≠ .enableVmx featureControl := by
  have runs := runsFrom_of_virtualize succeeds
  have keeps : ∀ call : Call, call.setsStage = false ↔
      call ≠ .loadVmcs ∧ ∀ featureControl, call ≠ .enableVmx featureControl := by
    intro call
    cases call <;> simp [Call.setsStage]
  simp only [← keeps]
  constructor
  · intro launched
    exact runs.keep_of_stage fun before isPrefix => (launched before isPrefix).1
  · intro keep before isPrefix
    have runs' := runs.afterCalls fun call mem => keep call (isPrefix.subset mem)
    exact ⟨runs'.stage, runs'.current⟩

/-- A virtual processor that is launched after reset stays so through all other calls. -/
theorem launched_kept_iff_reset :
    let vcpu := fresh 0 0x1c000 0x10000 .empty {}
    let calls : List Call := [.teardown, .enterVmx, .prepare, .virtualize, .teardown]
    (hardware.execute vcpu .reset virtualize).outcome = .ok () ∧
      let ended := afterCalls (hardware.execute vcpu .reset virtualize) calls
      ended.record.stage = .launched ∧ ended.state.currentVmcs = some 0x17000 := by
  intro vcpu calls
  have succeeds : (hardware.execute (fresh 0 0x1c000 0x10000 .empty {}) .reset virtualize).outcome
      = .ok () := outcome_eq_verdict.trans rfl
  have harmless : ∀ call ∈ calls, call ≠ .loadVmcs ∧ ∀ featureControl,
      call ≠ .enableVmx featureControl := by
    simp [calls]
  have address : vcpu.memory.vmcsAddress + SimulatedProcessor.reset.physicalOffset = 0x17000 := by
    decide
  have kept := (@launched_kept_iff vcpu .reset calls succeeds).2 harmless calls
    (List.prefix_refl calls)
  rw [address] at kept
  exact ⟨succeeds, kept⟩

/-- After reset, loading the VMCS again takes a launched virtual processor out of its stage, and a
teardown then takes the VMCS away from the guest that runs. -/
theorem vmcs_lost_after_loadVmcs :
    let launched := hardware.execute (fresh 0 0x1c000 0x10000 .empty {}) .reset virtualize
    let reloaded := afterCalls launched [.loadVmcs]
    let left := afterCalls launched [.loadVmcs, .teardown]
    launched.record.stage = .launched ∧ launched.state.currentVmcs = some 0x17000 ∧
      reloaded.outcome = .ok () ∧ reloaded.record.stage = .vmcsLoaded ∧
      left.record.stage = .off ∧ left.state.currentVmcs = none ∧ left.state.launched = true := by
  intro launched reloaded left
  have succeeds : launched.outcome = .ok () := outcome_eq_verdict.trans rfl
  have runs : RunsFrom 0x17000 launched := runsFrom_of_virtualize succeeds
  have ended : reloaded = _ := runs.afterCall_loadVmcs
  exact ⟨runs.stage, runs.current, by rw [ended], by rw [ended]; rfl, runs.teardown_after_loadVmcs⟩

end VtxMonitor.Vcpu
