import VtxMonitor.Proofs.Processor.Refusal
import VtxMonitor.Proofs.Vcpu.FixedBits

/-!
# Proofs/Vcpu/Refusals — a virtualization ends where VMLAUNCH or INVEPT is refused

Both are requested by one part of a bring-up only, so **a virtualization in which one of them is
refused ends there**, on every hardware: `virtualize_stops_launch` and `virtualize_stops_invept`
give the error that it returns, and what giving up starts from.
-/

namespace VtxMonitor

namespace Operation

variable {op : Operation}

theorem Inert.ne_vmlaunch (inert : op.Inert) : op ≠ .vmlaunch := by
  rintro rfl
  exact inert

theorem Inert.ne_inveptAll (inert : op.Inert) : op ≠ .inveptAll := by
  rintro rfl
  exact inert

theorem Filling.ne_vmlaunch (filling : op.Filling) : op ≠ .vmlaunch := by
  rintro rfl
  exact filling

theorem Filling.ne_inveptAll (filling : op.Filling) : op ≠ .inveptAll := by
  rintro rfl
  exact filling

/-- Whether a request is VMLAUNCH, to be evaluated. -/
def isVmlaunch : Operation → Bool
  | .vmlaunch => true
  | _ => false

/-- Whether a request is INVEPT, to be evaluated. -/
def isInveptAll : Operation → Bool
  | .inveptAll => true
  | _ => false

theorem eq_of_isVmlaunch (is : op.isVmlaunch = true) : op = .vmlaunch := by
  cases op <;> first | rfl | cases is

theorem eq_of_isInveptAll (is : op.isInveptAll = true) : op = .inveptAll := by
  cases op <;> first | rfl | cases is

/-- A request that is found in a run by evaluating the run. -/
theorem exists_mem_of_any {σ : Type} {steps : List (Operation × σ)} {is : Operation → Bool}
    (only : ∀ {op' : Operation}, is op' = true → op' = op) (found : σ → Bool)
    (any : steps.any (fun step => is step.1 && found step.2) = true) :
    ∃ s, (op, s) ∈ steps ∧ found s = true := by
  obtain ⟨⟨op', s⟩, mem, both⟩ := List.any_eq_true.1 any
  obtain ⟨same, holds⟩ := Bool.and_eq_true_iff.1 both
  exact ⟨s, only same ▸ mem, holds⟩

end Operation

namespace Vcpu

open Fallible (Ensures Stops)
open Script

variable {σ : Type} {hw : Hardware σ} {fail : VmFail} {s failed : σ}

/-! ## Giving up -/

/-- What remains of the record and the processor when a bring-up is given up. -/
def givenUp (hw : Hardware σ) (index : BitVec 32) (error : Error) (vcpu : Vcpu) (s : σ) :
    Vcpu × σ :=
  let reported := (hw.answer (.report (.bringUpFailed index vcpu.stage error)) s).2
  ((hw.run (teardown.run vcpu) reported).1.2, (hw.run (teardown.run vcpu) reported).2)

/-- **Giving up tears down and returns the error** of the bring-up. -/
theorem execute_giveUp (index : BitVec 32) (error : Error) (vcpu : Vcpu) (s : σ) :
    hw.execute vcpu s (giveUp index error)
      = ⟨.error error, (givenUp hw index error vcpu s).1, (givenUp hw index error vcpu s).2⟩ := by
  unfold giveUp
  rw [Hardware.execute_bind, Hardware.execute_get, Execution.andThen_ok, Hardware.execute_bind,
    Hardware.execute_program, Execution.andThen_ok, Hardware.execute_bind, Hardware.execute_owned,
    Execution.andThen_ok]
  rfl

/-- **A virtualization stops where its bring-up does**, with the error of the bring-up, and tears
down from there. -/
theorem Stops.of_virtualize {op : Operation} {before : Vcpu → σ → Prop}
    {ended : Error → Vcpu → σ → Prop} (inert : ∀ op' : Operation, op'.Inert → op' ≠ op)
    (writes : ∀ register value, .writeCr register value ≠ op)
    (vmclear : ∀ address, .vmclear address ≠ op)
    (kept : ∀ {α : Type} {procedure : Fallible Vcpu α},
      (∀ vcpu, (procedure.start vcpu).Only Operation.Inert) →
        Ensures hw before procedure fun _ => before)
    (up : ∀ featureControl, Stops hw before (bringUp featureControl) (op, s) ended) :
    Stops hw before virtualize (op, s) fun error vcpu s' => ∃ index vcpu₀ s₀,
      ended error vcpu₀ s₀ ∧ (vcpu, s') = givenUp hw index error vcpu₀ s₀ := by
  have gets (vcpu : Vcpu) :
      (Fallible.start (get : Fallible Vcpu Vcpu) vcpu).Only Operation.Inert := trivial
  have reports (diagnostic : Diagnostic) (vcpu : Vcpu) :
      ((liftM (Program.report diagnostic) : Fallible Vcpu Unit).start vcpu).Only Operation.Inert :=
    (report_inert diagnostic).start_program vcpu
  have checks (vcpu : Vcpu) : ((liftM Support.check :
      Fallible Vcpu FeatureControlState).start vcpu).Only Operation.Inert :=
    check_inert.start_procedure vcpu
  have goOn (vcpu : Vcpu) : Stops hw before (attempt vcpu.index) (op, s) fun error record s' =>
          ∃ index vcpu₀ s₀, ended error vcpu₀ s₀ ∧
            (record, s') = givenUp hw index error vcpu₀ s₀ := by
    refine .behind (fun _ => (reports _ _).mono inert) (kept (reports _)) fun _ => ?_
    refine .behind (fun _ => (checks _).mono inert) (kept checks) fun featureControl => ?_
    refine (up featureControl).handled
      (fun error _ => giveUp_only inert _ error writes vmclear) fun error record s' holds => ?_
    exact ⟨_, _, _, execute_giveUp vcpu.index error record s', _, record, s', holds, rfl⟩
  refine .behind (fun _ => (gets _).mono inert) (kept gets) fun vcpu => ?_
  split
  · exact .behind (fun _ => trivial) (.of_throw _) fun _ => goOn vcpu
  · exact goOn vcpu

/-! ## A refused launch -/

/-- What is found to explain a failed launch, in the state that VMLAUNCH leaves. -/
def launchCause (hw : Hardware σ) (fail : VmFail) (failed : σ) : InstructionError :=
  (hw.run (Vmcs.launchError fail) failed).1

/-- **A launch that VMLAUNCH refuses fails** with what explains it then. -/
theorem run_launch_refused (refused : hw.answer .vmlaunch s = (.error fail, failed)) :
    (hw.run Vmcs.launch.run s).1 = .error (.launchFailed (launchCause hw fail failed)) := by
  rw [Vmcs.launch, Hardware.run_procedure_request, refused, Vmcs.answerLaunch,
    Hardware.run_procedure_program, Hardware.run_procedure_report]
  rfl

theorem launch_stops (before : Vcpu → σ → Prop)
    (refused : hw.answer .vmlaunch s = (.error fail, failed)) :
    Stops hw before (liftM Vmcs.launch : Fallible Vcpu Unit) (.vmlaunch, s)
      fun error _ _ => error = .launchFailed (launchCause hw fail failed) := by
  intro record start _ mem
  rw [Hardware.stepsOf_procedure] at mem
  have launches : (.vmlaunch, s) ∈ hw.steps
      (.perform .vmlaunch fun reply => (Vmcs.answerLaunch reply).run) start := mem
  obtain rfl := Hardware.start_of_mem_steps
    (answerLaunch_only fun _ => Operation.Inert.ne_vmlaunch) launches
  rw [Hardware.execute_procedure, run_launch_refused refused]
  exact ⟨_, _, _, rfl, rfl⟩

/-- **A bring-up that VMLAUNCH refuses to launch stops there.** -/
theorem bringUp_stops_launch (featureControl : FeatureControlState)
    (refused : hw.answer .vmlaunch s = (.error fail, failed)) :
    Stops hw (fun _ _ => True) (bringUp featureControl) (.vmlaunch, s)
      fun error _ _ => error = .launchFailed (launchCause hw fail failed) := by
  have inert : ∀ op : Operation, op.Inert → op ≠ .vmlaunch := fun _ => Operation.Inert.ne_vmlaunch
  have fills : ∀ op : Operation, op.Filling → op ≠ .vmlaunch :=
    fun _ => Operation.Filling.ne_vmlaunch
  have launches : Stops hw (fun (_ : Vcpu) _ => True) fillAndLaunch (.vmlaunch, s)
      fun error _ _ => error = .launchFailed (launchCause hw fail failed) := by
    refine .behind (fun _ => (prepare_inert.mono inert).start_owned) (.top _) fun _ => ?_
    refine .behind (fun _ => report_only inert _) (.top _) fun _ => ?_
    refine .behind (fun _ => trivial) (.top _) fun vcpu => ?_
    refine .behind (fun record => ((Vmcs.populate_filling _).mono fills).start_procedure record)
      (.top _) fun _ => ?_
    refine .behind (fun _ => report_only inert _) (.top _) fun _ => ?_
    refine (launch_stops _ refused).bind fun _ _ => ?_
    exact .start_bind trivial fun _ _ => .start_bind trivial fun _ _ => report_only inert _
  refine .behind (fun _ => .start_owned (enableVmx_only inert _ (fun _ _ => nofun) fun _ => nofun))
    (.top _) fun _ => ?_
  refine .behind (fun _ => report_only inert _) (.top _) fun _ => ?_
  refine .behind (fun _ => enterVmx_only inert (fun _ => nofun) nofun) (.top _) fun _ => ?_
  refine .behind (fun _ => report_only inert _) (.top _) fun _ => ?_
  refine .behind (fun _ => loadVmcs_only inert (fun _ => nofun) fun _ => nofun) (.top _)
    fun _ => ?_
  exact .behind (fun _ => report_only inert _) (.top _) fun _ => launches

/-- **A virtualization that VMLAUNCH refuses to launch** fails with what explains the refusal. -/
theorem virtualize_stops_launch (refused : hw.answer .vmlaunch s = (.error fail, failed))
    (vcpu : Vcpu) (start : σ) (mem : (.vmlaunch, s) ∈ hw.stepsOf vcpu start virtualize) :
    (hw.execute vcpu start virtualize).outcome
      = .error (.launchFailed (launchCause hw fail failed)) := by
  have kept : ∀ {α : Type} {procedure : Fallible Vcpu α},
      (∀ vcpu, (procedure.start vcpu).Only Operation.Inert) →
        Ensures hw (fun _ _ => True) procedure fun _ _ _ => True :=
    fun _ => .of_kept fun _ _ _ => trivial
  have stops := Stops.of_virtualize (fun _ => Operation.Inert.ne_vmlaunch) (fun _ _ => nofun)
    (fun _ => nofun) kept (bringUp_stops_launch · refused)
  obtain ⟨error, _, _, execution, _, _, _, rfl, -⟩ := stops vcpu start trivial mem
  rw [execution]

/-! ## A refused INVEPT -/

theorem invept_stops (refused : hw.answer .inveptAll s = (.error fail, failed))
    (assertion : Vcpu → Prop) :
    Stops hw (fun record _ => assertion record)
      (liftM (instruction "INVEPT" (Program.request .inveptAll)) : Fallible Vcpu Unit)
      (.inveptAll, s) fun error record s' =>
        error = .vmxInstruction "INVEPT" fail ∧ s' = failed ∧ assertion record := by
  intro record start holds mem
  have once : hw.steps (instruction "INVEPT" (Program.request .inveptAll)).run start
      = [(.inveptAll, start)] := rfl
  have attempted : hw.run (instruction "INVEPT" (Program.request .inveptAll)).run s
      = ((hw.answer .inveptAll s).1.mapError (.vmxInstruction "INVEPT"),
        (hw.answer .inveptAll s).2) := rfl
  rw [Hardware.stepsOf_procedure, once] at mem
  obtain rfl : s = start := (Prod.ext_iff.1 (List.mem_singleton.1 mem)).2
  rw [Hardware.execute_procedure, attempted, refused]
  exact ⟨_, _, _, rfl, rfl, rfl, holds⟩

/-- **Entering VMX operation stops at an INVEPT that is refused**: behind VMXON, with the control
registers saved as before. -/
theorem enterVmx_stops (refused : hw.answer .inveptAll s = (.error fail, failed))
    (rollback : Word × Word) :
    Stops hw (fun record _ => record.saved = rollback) enterVmx (.inveptAll, s)
      fun error record s' => error = .vmxInstruction "INVEPT" fail ∧ s' = failed ∧
        record.stage = .vmxOn ∧ record.saved = rollback := by
  have inert : ∀ op : Operation, op.Inert → op ≠ .inveptAll := fun _ => Operation.Inert.ne_inveptAll
  have entered : Ensures hw (fun _ _ => True) (liftM (enter .vmxOn) : Fallible Vcpu Unit)
      fun _ record _ => record.stage = .vmxOn := fun _ _ _ _ _ => rfl
  have stops : Stops hw (fun record _ => record.saved = rollback) enterVmx (.inveptAll, s)
      fun error record s' => error = .vmxInstruction "INVEPT" fail ∧ s' = failed ∧
        record.stage = .vmxOn := by
    refine .behind (fun _ => stampRegion_only inert _ _ _) (.top _) fun vmxon => ?_
    have enters : (instruction "VMXON" (Program.request (.vmxon vmxon))).run.Only
        (· ≠ .inveptAll) := instruction_only _ ⟨nofun, fun _ => trivial⟩
    refine .behind (fun _ => enters.start_procedure _) (.top _) fun _ => ?_
    exact .behind (fun _ => trivial) entered fun _ => invept_stops refused (·.stage = .vmxOn)
  intro record start saves mem
  obtain ⟨error, record', s', execution, named, left, on⟩ := stops record start saves mem
  have kept := enterVmx_keeps saved_lasting σ hw record start
  rw [execution] at kept
  exact ⟨error, record', s', execution, named, left, on, kept.trans saves⟩

/-- **A bring-up stops at an INVEPT that is refused**, with the control registers saved that it
found. -/
theorem bringUp_stops_invept (file : RegisterFile hw) (msr : Msr.Number → Word)
    (before : ControlRegister → Word) (featureControl : FeatureControlState)
    (refused : hw.answer .inveptAll s = (.error fail, failed)) :
    Stops hw (Found file msr before) (bringUp featureControl) (.inveptAll, s)
      fun error record s' => error = .vmxInstruction "INVEPT" fail ∧ s' = failed ∧
        record.stage = .vmxOn ∧ record.saved = (before .cr0, before .cr4) := by
  have inert : ∀ op : Operation, op.Inert → op ≠ .inveptAll := fun _ => Operation.Inert.ne_inveptAll
  have saves : Ensures hw (Found file msr before)
      (liftM (enableVmx featureControl) : Fallible Vcpu Unit)
      fun _ record _ => record.saved = (before .cr0, before .cr4) :=
    fun record start found value returned =>
      (Settled.of_enableVmx file msr before featureControl record start found value
        returned).rollback
  refine .behind (fun _ => .start_owned (enableVmx_only inert _ (fun _ _ => nofun) fun _ => nofun))
    saves fun _ => ?_
  refine .behind (fun _ => report_only inert _)
    (.of_kept fun record start saved => (Fallible.Keeps.of_program _ σ hw record start).trans saved)
    fun _ => ?_
  refine (enterVmx_stops refused _).bind fun _ _ => ?_
  refine .start_bind (report_only inert _) fun _ _ => ?_
  refine .start_bind (loadVmcs_only inert (fun _ => nofun) fun _ => nofun) fun _ _ => ?_
  refine .start_bind (report_only inert _) fun _ _ => ?_
  exact fillAndLaunch_only inert (fun _ => Operation.Filling.ne_inveptAll) nofun

/-- **A virtualization in which INVEPT is refused** fails with that error, and gives up from VMX
operation with the control registers saved that it found. -/
theorem virtualize_stops_invept (file : RegisterFile hw)
    (refused : hw.answer .inveptAll s = (.error fail, failed)) (vcpu : Vcpu) (start : σ)
    (mem : (.inveptAll, s) ∈ hw.stepsOf vcpu start virtualize) :
    ∃ index entered, entered.stage = .vmxOn ∧
      entered.saved = (file.cr start .cr0, file.cr start .cr4) ∧
      let error := Error.vmxInstruction "INVEPT" fail
      hw.execute vcpu start virtualize
        = ⟨.error error, (givenUp hw index error entered failed).1,
          (givenUp hw index error entered failed).2⟩ := by
  have stops := Stops.of_virtualize (fun _ => Operation.Inert.ne_inveptAll) (fun _ _ => nofun)
    (fun _ => nofun) (ensures_of_inert file _)
    (bringUp_stops_invept file (file.msr start) (file.cr start) · refused)
  obtain ⟨_, _, _, execution, index, entered, _, ⟨rfl, rfl, on, saved⟩, left⟩ :=
    stops vcpu start ⟨rfl, rfl⟩ mem
  obtain ⟨rfl, rfl⟩ := Prod.mk.inj left
  exact ⟨index, entered, on, saved, execution⟩

end Vcpu

end VtxMonitor
