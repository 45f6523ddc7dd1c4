import VtxMonitor.Proofs.Vcpu.Requests
import VtxMonitor.Proofs.Vcpu.Residue

/-!
# Proofs/Vcpu/FeatureControl — IA32_FEATURE_CONTROL is written once, while it is unlocked

The capability check decides whether IA32_FEATURE_CONTROL has to be locked, and adjusting the
control registers locks it.  A virtualization writes no other MSR, and this one exactly if the check
found it unlocked (`msrWrites_virtualize`); afterwards the check finds it enabled, whether the
virtualization succeeded or was rolled back (`checkOutcome_virtualize`).  So **virtualizations in
any order write it at most once** (`featureControl_locked_once`).
-/

namespace VtxMonitor

open SimulatedProcessor (hardware)

/-! ## Writes of MSRs -/

section

variable {ρ σ α β : Type}

/-- The requests that write an MSR. -/
def msrWrites (steps : List (Operation × σ)) : List (Operation × σ) :=
  steps.filter fun step => step.1.writtenMsr.isSome

theorem msrWrites_append (first rest : List (Operation × σ)) :
    msrWrites (first ++ rest) = msrWrites first ++ msrWrites rest := List.filter_append ..

/-- Requests that write no MSR. -/
abbrev Operation.SparesMsrs (op : Operation) : Prop := op.writtenMsr = none

variable {hw : Hardware σ} {record record' : ρ} {s s' : σ}

theorem msrWrites_of_only {program : Program α} (only : program.Only Operation.SparesMsrs) :
    msrWrites (hw.steps program s) = [] := by
  refine List.filter_eq_nil_iff.2 fun step mem => ?_
  have spares : step.1.writtenMsr = none := only.of_mem_steps mem
  rw [spares]
  exact Bool.false_ne_true

/-- The writes of a sequence whose second part writes no MSR. -/
theorem msrWrites_bind_first {procedure : Fallible ρ α} {next : α → Fallible ρ β}
    (rest : ∀ value record, ((next value).start record).Only Operation.SparesMsrs) :
    msrWrites (hw.stepsOf record s (procedure >>= next))
      = msrWrites (hw.stepsOf record s procedure) := by
  rw [Hardware.stepsOf_bind, msrWrites_append]
  rcases hw.execute record s procedure with ⟨error | value, record', s'⟩
  · exact List.append_nil _
  · exact (congrArg _ (msrWrites_of_only (rest value record'))).trans (List.append_nil _)

/-- The writes of a sequence whose first part writes no MSR. -/
theorem msrWrites_bind_rest {procedure : Fallible ρ α} {next : α → Fallible ρ β} {value : α}
    (first : (procedure.start record).Only Operation.SparesMsrs)
    (ended : hw.execute record s procedure = ⟨.ok value, record', s'⟩) :
    msrWrites (hw.stepsOf record s (procedure >>= next))
      = msrWrites (hw.stepsOf record' s' (next value)) := by
  rw [Hardware.stepsOf_bind, msrWrites_append, ended]
  exact congrArg (· ++ _) (msrWrites_of_only first)

/-- The writes of a procedure whose handler writes no MSR. -/
theorem msrWrites_handled {procedure : Fallible ρ α} {handler : Error → Fallible ρ α}
    (rest : ∀ error record, ((handler error).start record).Only Operation.SparesMsrs) :
    msrWrites (hw.stepsOf record s (tryCatch procedure handler))
      = msrWrites (hw.stepsOf record s procedure) := by
  rw [Hardware.stepsOf_tryCatch, msrWrites_append]
  rcases hw.execute record s procedure with ⟨error | value, record', s'⟩
  · exact (congrArg _ (msrWrites_of_only (rest error record'))).trans (List.append_nil _)
  · exact List.append_nil _

end

namespace Vcpu

open Script

variable {vcpu : Vcpu} {cpu : SimulatedProcessor} {featureControl : FeatureControlState}

/-- The write that locks IA32_FEATURE_CONTROL, with interrupts disabled. -/
def lockingWrite (cpu : SimulatedProcessor) : Operation × SimulatedProcessor :=
  (.writeMsr Msr.featureControl (lockedFeatureControl (cpu.msrs Msr.featureControl)),
    (hardware.answer .disableInterrupts cpu).2)

/-- Adjusting the control registers writes IA32_FEATURE_CONTROL if it is unlocked. -/
theorem msrWrites_enableVmx :
    msrWrites (hardware.steps ((enableVmx featureControl).run vcpu) cpu)
      = if featureControl = .unlocked then [lockingWrite cpu] else [] := by
  have adjusts : ∀ cpu : SimulatedProcessor,
      msrWrites (hardware.steps (adjustControlRegisters.run vcpu) cpu) = [] := fun _ =>
    msrWrites_of_only (adjustControlRegisters_only (fun _ => Operation.Inert.writtenMsr)
      fun _ _ => rfl)
  cases featureControl with
  | enabled =>
      rw [enableVmx_enabled, Hardware.steps_owned_request]
      exact adjusts (hardware.answer .disableInterrupts cpu).2
  | unlocked =>
      rw [enableVmx_unlocked, Hardware.steps_owned_request]
      exact congrArg (lockingWrite cpu :: ·) (adjusts _)

/-- **A virtualization writes no MSR but IA32_FEATURE_CONTROL, and that one exactly if the
capability check finds it unlocked.** -/
theorem msrWrites_virtualize (vcpu : Vcpu) (cpu : SimulatedProcessor) :
    msrWrites (hardware.stepsOf vcpu cpu virtualize)
      = match vcpu.stage, cpu.checkOutcome with
        | .off, .ok .unlocked => [lockingWrite cpu]
        | _, _ => [] := by
  have inert : ∀ op : Operation, op.Inert → op.SparesMsrs := fun _ => Operation.Inert.writtenMsr
  have gets : Program.Only Operation.SparesMsrs
      (Fallible.start (get : Fallible Vcpu Vcpu) vcpu) := trivial
  have reported : hardware.execute vcpu cpu
      (liftM (Program.report (.virtualizingProcessor vcpu.index)) : Fallible Vcpu Unit)
        = ⟨.ok (), vcpu, cpu⟩ := rfl
  have checks := (check_inert.mono inert).start_procedure vcpu
  have checked : hardware.execute vcpu cpu (liftM Support.check : Fallible Vcpu FeatureControlState)
      = ⟨cpu.checkOutcome, vcpu, cpu⟩ := by
    rw [Hardware.execute_procedure, SimulatedProcessor.run_check]
  have launching (vcpu : Vcpu) :
      (Fallible.start bringUpAdjusted vcpu).Only Operation.SparesMsrs :=
    bringUpAdjusted_only inert (fun _ => rfl) rfl (fun _ => rfl) (fun _ => rfl)
      (fun _ => Operation.Filling.writtenMsr) rfl
  have givesUp (error : Error) (record : Vcpu) :
      (Fallible.start (giveUp vcpu.index error) record).Only Operation.SparesMsrs :=
    giveUp_only inert _ _ (fun _ _ => rfl) fun _ => rfl
  rw [virtualize, Script.virtualize, msrWrites_bind_rest gets (Hardware.execute_get ..)]
  by_cases off : vcpu.stage = .off
  · rw [if_neg (not_not_intro off), attempt,
      msrWrites_bind_rest (report_only inert _) reported, off]
    cases supported : cpu.checkOutcome with
    | error error =>
        rw [supported] at checked
        rw [Hardware.stepsOf_bind, msrWrites_append, checked]
        exact congrArg (· ++ _) (msrWrites_of_only checks)
    | ok featureControl =>
        rw [supported] at checked
        rw [msrWrites_bind_rest checks checked, msrWrites_handled givesUp, Script.bringUp,
          msrWrites_bind_first fun _ => launching, Hardware.stepsOf_owned, msrWrites_enableVmx]
        cases featureControl <;> rfl
  · rw [if_pos off]
    cases stage : vcpu.stage with
    | off => exact absurd stage off
    | _ => rfl

/-! ## The capability check afterwards -/

/-- A bring-up leaves an unlocked IA32_FEATURE_CONTROL locked, however it ends. -/
theorem BringUpEnds.locked {execution : Execution Vcpu SimulatedProcessor Unit}
    (ends : BringUpEnds vcpu cpu featureControl execution) :
    execution.state.cpuid = cpu.cpuid ∧ execution.state.msrs = cpu.lockedMsrs featureControl := by
  cases ends with
  | unusableVmxon | refusedVmxon | unmappedVmcs | unmappedBitmap | failedLaunch | launched =>
      exact ⟨rfl, rfl⟩

/-- What the capability check has accepted is enabled once it is locked. -/
theorem checkOutcome_of_lockedMsrs {after : SimulatedProcessor}
    (supported : cpu.checkOutcome = .ok featureControl)
    (locked : after.cpuid = cpu.cpuid ∧ after.msrs = cpu.lockedMsrs featureControl) :
    after.checkOutcome = .ok .enabled := by
  obtain ⟨cpuid, msrs⟩ := locked
  cases featureControl with
  | enabled => exact (SimulatedProcessor.checkOutcome_congr cpuid msrs).trans supported
  | unlocked => exact SimulatedProcessor.checkOutcome_of_locked supported cpuid msrs

/-- **Behind a virtualization that passes the capability check VMX is enabled**, and behind every
other one the check answers as before. -/
theorem checkOutcome_virtualize (vcpu : Vcpu) (cpu : SimulatedProcessor) :
    (hardware.execute vcpu cpu virtualize).state.checkOutcome
      = match vcpu.stage, cpu.checkOutcome with
        | .off, .ok _ => .ok .enabled
        | _, outcome => outcome := by
  have ends := virtualizeEnds vcpu cpu
  revert ends
  generalize hardware.execute vcpu cpu virtualize = execution
  intro ends
  cases ends with
  | alreadyVirtualized busy =>
      cases stage : vcpu.stage with
      | off => exact absurd stage busy
      | _ => rfl
  | unsupported off fails => rw [off, fails]
  | rolledBack off supported ran | launched off supported ran =>
      rw [off, supported]
      exact checkOutcome_of_lockedMsrs supported (BringUpEnds.of_execute ran).locked

/-- Once VMX is enabled, no virtualization writes an MSR. -/
theorem msrWrites_of_enabled (vcpu : Vcpu) (enabled : cpu.checkOutcome = .ok .enabled) :
    msrWrites (hardware.stepsOf vcpu cpu virtualize) = [] := by
  rw [msrWrites_virtualize, enabled]
  cases vcpu.stage <;> rfl

theorem enabled_virtualize (vcpu : Vcpu) (enabled : cpu.checkOutcome = .ok .enabled) :
    (hardware.execute vcpu cpu virtualize).state.checkOutcome = .ok .enabled := by
  rw [checkOutcome_virtualize, enabled]
  cases vcpu.stage <;> rfl

/-! ## Virtualizations one after the other -/

/-- A virtualization: the virtual processor and the processor as it finds them. -/
structure Attempt where
  vcpu : Vcpu
  cpu : SimulatedProcessor

namespace Attempt

/-- The requests of a virtualization. -/
def steps (attempt : Attempt) : List (Operation × SimulatedProcessor) :=
  hardware.stepsOf attempt.vcpu attempt.cpu virtualize

/-- How a virtualization ends. -/
def ended (attempt : Attempt) : Execution Vcpu SimulatedProcessor Unit :=
  hardware.execute attempt.vcpu attempt.cpu virtualize

end Attempt

section

variable {ι : Type} [DecidableEq ι] (vcpus : ι → Vcpu) (cpu : SimulatedProcessor)

/-- Virtualizations of any virtual processors of one processor, in any order. -/
def attempts (vcpus : ι → Vcpu) (cpu : SimulatedProcessor) : List ι → List Attempt
  | [] => []
  | who :: rest =>
      let attempt : Attempt := ⟨vcpus who, cpu⟩
      attempt :: attempts (update vcpus who attempt.ended.record) attempt.ended.state rest

/-- The processor behind virtualizations. -/
def afterAttempts (vcpus : ι → Vcpu) (cpu : SimulatedProcessor) : List ι → SimulatedProcessor
  | [] => cpu
  | who :: rest =>
      let attempt : Attempt := ⟨vcpus who, cpu⟩
      afterAttempts (update vcpus who attempt.ended.record) attempt.ended.state rest

variable {vcpus cpu}

/-- **Once VMX is enabled it stays enabled**, and no MSR is written any more. -/
theorem enabled_attempts (enabled : cpu.checkOutcome = .ok .enabled) (calls : List ι) :
    msrWrites ((attempts vcpus cpu calls).flatMap Attempt.steps) = [] ∧
      (afterAttempts vcpus cpu calls).checkOutcome = .ok .enabled := by
  induction calls generalizing vcpus cpu with
  | nil => exact ⟨rfl, enabled⟩
  | cons who rest ih =>
      obtain ⟨silent, stays⟩ := ih (enabled_virtualize (vcpus who) enabled)
      refine ⟨?_, stays⟩
      rw [attempts, List.flatMap_cons, msrWrites_append]
      exact (congrArg (· ++ _) (msrWrites_of_enabled (vcpus who) enabled)).trans silent

/-- Virtualizations write one MSR at most. -/
theorem length_msrWrites_attempts (calls : List ι) :
    (msrWrites ((attempts vcpus cpu calls).flatMap Attempt.steps)).length ≤ 1 := by
  induction calls generalizing vcpus cpu with
  | nil => exact Nat.zero_le _
  | cons who rest ih =>
      rw [attempts, List.flatMap_cons, msrWrites_append, Attempt.steps, msrWrites_virtualize]
      split
      · next off unlocked =>
          have enabled : (Attempt.mk (vcpus who) cpu).ended.state.checkOutcome = .ok .enabled := by
            rw [Attempt.ended, checkOutcome_virtualize, off, unlocked]
          rw [(enabled_attempts enabled rest).1]
          exact Nat.le_refl 1
      · exact ih

theorem enabled_afterAttempts {calls : List ι} {attempt : Attempt}
    (mem : attempt ∈ attempts vcpus cpu calls) (off : attempt.vcpu.stage = .off)
    (supported : attempt.cpu.checkOutcome = .ok featureControl) :
    (afterAttempts vcpus cpu calls).checkOutcome = .ok .enabled := by
  induction calls generalizing vcpus cpu with
  | nil => exact absurd mem List.not_mem_nil
  | cons who rest ih =>
      rcases List.mem_cons.1 mem with rfl | mem
      · refine (enabled_attempts ?_ rest).2
        rw [Attempt.ended, checkOutcome_virtualize, off, supported]
      · exact ih mem

/-- The write of an attempt locks what was unlocked. -/
theorem Attempt.msrWrites_steps {attempt : Attempt} {write : Operation × SimulatedProcessor}
    (mem : write ∈ msrWrites attempt.steps) :
    let value := write.2.msrs Msr.featureControl
    value.getLsbD 0 = false ∧ write.1 = .writeMsr Msr.featureControl (value ||| 0x5) := by
  rw [steps, msrWrites_virtualize] at mem
  split at mem
  · next off unlocked =>
      obtain rfl := List.mem_singleton.1 mem
      have lock := SimulatedProcessor.isSetIn_locked unlocked
      have bits : Flag.union [FeatureControl.locked, FeatureControl.vmxOutsideSmx] = 0x5 := by
        decide
      refine ⟨(isSetIn_eq_getLsbD FeatureControl.locked (by decide) _).symm.trans lock, ?_⟩
      rw [lockingWrite, lockedFeatureControl, bits]
      rfl
  · exact absurd mem List.not_mem_nil

/-- **IA32_FEATURE_CONTROL is written only while it is unlocked, and at most once**, by any
virtualizations of any virtual processors of a processor, in any order and whether they succeed or
fail.  The write adds the lock and VMX outside of SMX to the old value.  A virtualization whose
capability check fails writes nothing, and from one that passes the check on VMX is enabled. -/
theorem featureControl_locked_once (vcpus : ι → Vcpu) (cpu : SimulatedProcessor) (calls : List ι) :
    let check := fun cpu => (hardware.run Support.check.run cpu).1
    let attempts := attempts vcpus cpu calls
    let writes := msrWrites (attempts.flatMap Attempt.steps)
    (∀ write ∈ writes,
      let value := write.2.msrs Msr.featureControl
      value.getLsbD 0 = false ∧ write.1 = .writeMsr Msr.featureControl (value ||| 0x5)) ∧
    writes.length ≤ 1 ∧
    (∀ attempt ∈ attempts, ∀ error, check attempt.cpu = .error error →
      msrWrites attempt.steps = []) ∧
    ∀ attempt ∈ attempts, ∀ featureControl, attempt.vcpu.stage = .off →
      check attempt.cpu = .ok featureControl →
      check attempt.ended.state = .ok .enabled ∧
        check (afterAttempts vcpus cpu calls) = .ok .enabled := by
  intro check attempts writes
  have checked : ∀ cpu, check cpu = cpu.checkOutcome := fun cpu =>
    congrArg Prod.fst (SimulatedProcessor.run_check cpu)
  refine ⟨fun write mem => ?_, length_msrWrites_attempts calls, fun attempt _ error fails => ?_,
    fun attempt mem featureControl off supported => ?_⟩
  · rw [show writes = attempts.flatMap fun attempt => msrWrites attempt.steps from
      List.filter_flatMap ..] at mem
    obtain ⟨attempt, -, mem⟩ := List.mem_flatMap.1 mem
    exact Attempt.msrWrites_steps mem
  · rw [checked] at fails
    rw [Attempt.steps, msrWrites_virtualize, fails]
    cases attempt.vcpu.stage <;> rfl
  · rw [checked] at supported
    rw [checked, checked, enabled_afterAttempts mem off supported, Attempt.ended,
      checkOutcome_virtualize, off, supported]
    exact ⟨rfl, rfl⟩

end

/-- Two virtual processors with IA32_FEATURE_CONTROL unlocked, where every launch fails; the first
one is tried once more behind the other. -/
theorem featureControl_locked_once_retry :
    let vcpus : Bool → Vcpu := fun second =>
      fresh (if second then 1 else 0) 0x1c000 (if second then 0x20000 else 0x10000) .empty {}
    let cpu := { SimulatedProcessor.reset.setMsr Msr.featureControl 0x100 with
      launchFailure := some 7 }
    let calls := [false, true, false]
    let writes := msrWrites ((attempts vcpus cpu calls).flatMap Attempt.steps)
    (∃ state, writes = [(.writeMsr Msr.featureControl 0x105, state)]) ∧
      (hardware.run Support.check.run cpu).1 = .ok .unlocked ∧
      (hardware.run Support.check.run (afterAttempts vcpus cpu calls)).1 = .ok .enabled := by
  intro vcpus cpu calls writes
  obtain ⟨locks, once, -, enabled⟩ := featureControl_locked_once vcpus cpu calls
  have vmx : (cpu.cpuid 1).ecx.getLsbD 5 = true := by decide
  have lock : (cpu.msrs Msr.featureControl).getLsbD 0 = false := by decide
  have checked : cpu.checkOutcome = .ok .unlocked := by
    rw [checkOutcome_eq, vmx, lock]
    rfl
  have unlocked : (hardware.run Support.check.run cpu).1 = .ok .unlocked := by
    rw [SimulatedProcessor.run_check, checked]
  have first : lockingWrite cpu ∈ writes := by
    have mem : lockingWrite cpu ∈ msrWrites (Attempt.mk (vcpus false) cpu).steps := by
      rw [Attempt.steps, msrWrites_virtualize, checked]
      exact List.mem_singleton.2 rfl
    rw [show writes = _ from msrWrites_append _ _]
    exact List.mem_append_left _ mem
  have only : ∃ write, writes = [write] :=
    List.length_eq_one_iff.1 (Nat.le_antisymm once (List.length_pos_of_mem first))
  obtain ⟨write, only⟩ := only
  rw [only] at first
  obtain rfl := List.mem_singleton.1 first
  have value : lockedFeatureControl (cpu.msrs Msr.featureControl) = 0x105 := by decide
  exact ⟨⟨(lockingWrite cpu).2, only.trans (by rw [lockingWrite, value])⟩, unlocked,
    (enabled ⟨vcpus false, cpu⟩ List.mem_cons_self .unlocked rfl unlocked).2⟩

end Vcpu

end VtxMonitor
