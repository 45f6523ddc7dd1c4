import VtxMonitor.Proofs.Vcpu.Requests

/-!
# Proofs/Vcpu/StageMarker — the stage is up to date at every step of a bring-up

`Truthful` compares the stages before and after a part of the bring-up with the requests that the
part made: the stage has passed `vmxOn` exactly if a VMXON succeeded meanwhile, and `vmcsLoaded`
exactly if a VMPTRLD did.  It is kept by sequencing (`Truthful.append`), it holds of every part, and
so **it holds of a bring-up wherever that ends** (`bringUp_truthful`), and of a virtualization with
its undo (`virtualize_truthful`).
-/

namespace VtxMonitor

open SimulatedProcessor (hardware)

/-! ## What is seen of the requests -/

/-- Whether one of the requests was a VMXON that succeeded. -/
def vmxonSucceeded (steps : List (Operation × SimulatedProcessor)) : Bool :=
  steps.any fun
    | (.vmxon address, before) => (before.vmxon address).1.isOk
    | _ => false

/-- Whether one of the requests was a VMPTRLD that succeeded. -/
def vmptrldSucceeded (steps : List (Operation × SimulatedProcessor)) : Bool :=
  steps.any fun
    | (.vmptrld address, before) => (before.vmptrld address).1.isOk
    | _ => false

/-- Control registers are only written with interrupts disabled, and in or out of VMX operation. -/
def CrWritesMasked (inVmx : Bool) (steps : List (Operation × SimulatedProcessor)) : Prop :=
  ∀ step ∈ steps, ∀ register value, step.1 = .writeCr register value →
    step.2.interruptsEnabled = false ∧ step.2.vmxOperation = inVmx

theorem vmxonSucceeded_append (steps steps' : List (Operation × SimulatedProcessor)) :
    vmxonSucceeded (steps ++ steps') = (vmxonSucceeded steps || vmxonSucceeded steps') :=
  List.any_append

theorem vmptrldSucceeded_append (steps steps' : List (Operation × SimulatedProcessor)) :
    vmptrldSucceeded (steps ++ steps') = (vmptrldSucceeded steps || vmptrldSucceeded steps') :=
  List.any_append

theorem vmxonSucceeded_vmxon (address : Word) (cpu : SimulatedProcessor) :
    vmxonSucceeded [(.vmxon address, cpu)] = (cpu.vmxon address).1.isOk := Bool.or_false _

theorem vmptrldSucceeded_vmptrld (address : Word) (cpu : SimulatedProcessor) :
    vmptrldSucceeded [(.vmptrld address, cpu)] = (cpu.vmptrld address).1.isOk := Bool.or_false _

theorem crWritesMasked_singleton {op : Operation}
    (h : ∀ register value, op ≠ .writeCr register value) (inVmx : Bool)
    (cpu : SimulatedProcessor) : CrWritesMasked inVmx [(op, cpu)] := by
  intro step mem register value write
  obtain rfl := List.mem_singleton.1 mem
  exact absurd write (h register value)

section Quiet

variable {steps : List (Operation × SimulatedProcessor)} (quiet : ∀ step ∈ steps, step.1.Quiet)
include quiet

theorem vmxonSucceeded_of_quiet : vmxonSucceeded steps = false := by
  rw [vmxonSucceeded, List.any_eq_false]
  rintro ⟨op, before⟩ mem
  have := quiet _ mem
  cases op <;> first | exact Bool.false_ne_true | exact this.elim

theorem vmptrldSucceeded_of_quiet : vmptrldSucceeded steps = false := by
  rw [vmptrldSucceeded, List.any_eq_false]
  rintro ⟨op, before⟩ mem
  have := quiet _ mem
  cases op <;> first | exact Bool.false_ne_true | exact this.elim

theorem crWritesMasked_of_quiet (inVmx : Bool) : CrWritesMasked inVmx steps := by
  rintro ⟨op, before⟩ mem register value rfl
  exact (quiet _ mem).elim

end Quiet

theorem Stage.reached_of_rank_le {before after step : Stage} (h : before.rank ≤ after.rank)
    (reached : before.reached step = true) : after.reached step = true := by
  rw [Stage.reached, decide_eq_true_iff] at *
  omega

namespace Vcpu

open Script

/-- The stages before and after a part of the bring-up tell what its requests achieved. -/
structure Truthful (inVmx : Bool) (before after : Stage)
    (steps : List (Operation × SimulatedProcessor)) : Prop where
  advances : before.rank ≤ after.rank
  entered : vmxonSucceeded steps = (after.reached .vmxOn && !before.reached .vmxOn)
  loaded : vmptrldSucceeded steps = (after.reached .vmcsLoaded && !before.reached .vmcsLoaded)
  masked : CrWritesMasked inVmx steps

namespace Truthful

variable {inVmx : Bool} {first second third : Stage}
  {steps steps' : List (Operation × SimulatedProcessor)}

theorem of_quiet (quiet : ∀ step ∈ steps, step.1.Quiet) : Truthful inVmx first first steps where
  advances := Nat.le_refl _
  entered := by rw [vmxonSucceeded_of_quiet quiet, Bool.and_not_self]
  loaded := by rw [vmptrldSucceeded_of_quiet quiet, Bool.and_not_self]
  masked := crWritesMasked_of_quiet quiet inVmx

theorem nil : Truthful inVmx first first [] :=
  of_quiet fun _ mem => absurd mem List.not_mem_nil

/-- Behind the last stage that a quiet request could concern. -/
theorem of_quiet_loaded (quiet : ∀ step ∈ steps, step.1.Quiet)
    (loaded : first.reached .vmcsLoaded = true) (advances : first.rank ≤ second.rank) :
    Truthful inVmx first second steps where
  advances
  entered := by
    have entered : first.reached .vmxOn = true := by
      rw [Stage.reached, decide_eq_true_iff] at *
      exact Nat.le_trans (by decide) loaded
    rw [vmxonSucceeded_of_quiet quiet, entered, Bool.not_true, Bool.and_false]
  loaded := by rw [vmptrldSucceeded_of_quiet quiet, loaded, Bool.not_true, Bool.and_false]
  masked := crWritesMasked_of_quiet quiet inVmx

/-- **Sequencing keeps the stage truthful.** -/
theorem append (truthful : Truthful inVmx first second steps)
    (truthful' : Truthful inVmx second third steps') :
    Truthful inVmx first third (steps ++ steps') where
  advances := Nat.le_trans truthful.advances truthful'.advances
  entered := by
    have h := @Stage.reached_of_rank_le _ _ .vmxOn truthful.advances
    have h' := @Stage.reached_of_rank_le _ _ .vmxOn truthful'.advances
    rw [vmxonSucceeded_append, truthful.entered, truthful'.entered]
    revert h h'
    cases first.reached .vmxOn <;> cases second.reached .vmxOn <;> cases third.reached .vmxOn <;>
      simp
  loaded := by
    have h := @Stage.reached_of_rank_le _ _ .vmcsLoaded truthful.advances
    have h' := @Stage.reached_of_rank_le _ _ .vmcsLoaded truthful'.advances
    rw [vmptrldSucceeded_append, truthful.loaded, truthful'.loaded]
    revert h h'
    cases first.reached .vmcsLoaded <;> cases second.reached .vmcsLoaded <;>
      cases third.reached .vmcsLoaded <;> simp
  masked := by
    intro step mem
    rcases List.mem_append.1 mem with mem | mem
    · exact truthful.masked step mem
    · exact truthful'.masked step mem

/-- A quiet request in front. -/
theorem cons {op : Operation} (quiet : op.Quiet) (before : SimulatedProcessor)
    (truthful : Truthful inVmx first second steps) :
    Truthful inVmx first second ((op, before) :: steps) := by
  have single : ∀ step ∈ [(op, before)], step.1.Quiet := by
    intro step mem
    obtain rfl := List.mem_singleton.1 mem
    exact quiet
  exact (of_quiet single).append truthful

end Truthful

/-! ## The parts of a bring-up -/

/-- A run that keeps the stage truthful. -/
def TruthfulRun {α : Type} (inVmx : Bool) (vcpu : Vcpu) (cpu : SimulatedProcessor)
    (procedure : Fallible Vcpu α) : Prop :=
  Truthful inVmx vcpu.stage (hardware.execute vcpu cpu procedure).record.stage
    (hardware.stepsOf vcpu cpu procedure)

variable {α β : Type} {inVmx : Bool} {vcpu : Vcpu} {cpu : SimulatedProcessor}

theorem TruthfulRun.bind {procedure : Fallible Vcpu α} {next : α → Fallible Vcpu β}
    (first : TruthfulRun inVmx vcpu cpu procedure)
    (rest : ∀ value vcpu' cpu', hardware.execute vcpu cpu procedure = ⟨.ok value, vcpu', cpu'⟩ →
      TruthfulRun inVmx vcpu' cpu' (next value)) :
    TruthfulRun inVmx vcpu cpu (procedure >>= next) := by
  rw [TruthfulRun, Hardware.stepsOf_bind, Hardware.execute_bind]
  rw [TruthfulRun] at first
  revert first rest
  rcases hardware.execute vcpu cpu procedure with ⟨error | value, record, state⟩
  · intro first _
    simpa using first
  · intro first rest
    exact first.append (rest value record state rfl)

/-- A run that makes quiet requests and leaves the stage as it is. -/
theorem TruthfulRun.of_quiet {procedure : Fallible Vcpu α}
    (quiet : (procedure.start vcpu).Only Operation.Quiet)
    (stage : (hardware.execute vcpu cpu procedure).record.stage = vcpu.stage) :
    TruthfulRun inVmx vcpu cpu procedure := by
  rw [TruthfulRun, stage]
  exact .of_quiet fun step mem => quiet.of_mem_steps mem

/-- Quiet requests in front that leave the stage as it is. -/
theorem TruthfulRun.quiet_bind {procedure : Fallible Vcpu α} {next : α → Fallible Vcpu β}
    (quiet : (procedure.start vcpu).Only Operation.Quiet)
    (stage : (hardware.execute vcpu cpu procedure).record.stage = vcpu.stage)
    (rest : ∀ value vcpu' cpu', vcpu'.stage = vcpu.stage →
      TruthfulRun inVmx vcpu' cpu' (next value)) :
    TruthfulRun inVmx vcpu cpu (procedure >>= next) := by
  refine (TruthfulRun.of_quiet quiet stage).bind fun value vcpu' cpu' ended => ?_
  rw [ended] at stage
  exact rest value vcpu' cpu' stage

theorem TruthfulRun.program_bind {program : Program α} {next : α → Fallible Vcpu β}
    (quiet : program.Only Operation.Quiet)
    (rest : ∀ value vcpu' cpu', vcpu'.stage = vcpu.stage →
      TruthfulRun inVmx vcpu' cpu' (next value)) :
    TruthfulRun inVmx vcpu cpu ((liftM program : Fallible Vcpu α) >>= next) :=
  quiet_bind (quiet.start_program vcpu) (by rw [Hardware.execute_program]) rest

theorem TruthfulRun.procedure_bind {procedure : Procedure α} {next : α → Fallible Vcpu β}
    (quiet : procedure.run.Only Operation.Quiet)
    (rest : ∀ value vcpu' cpu', vcpu'.stage = vcpu.stage →
      TruthfulRun inVmx vcpu' cpu' (next value)) :
    TruthfulRun inVmx vcpu cpu ((liftM procedure : Fallible Vcpu α) >>= next) :=
  quiet_bind (quiet.start_procedure vcpu) (by rw [Hardware.execute_procedure]) rest

theorem TruthfulRun.report_bind {diagnostic : Diagnostic} {next : Unit → Fallible Vcpu β}
    (rest : ∀ value vcpu' cpu', vcpu'.stage = vcpu.stage →
      TruthfulRun inVmx vcpu' cpu' (next value)) :
    TruthfulRun inVmx vcpu cpu
      ((liftM (Program.report diagnostic) : Fallible Vcpu Unit) >>= next) :=
  program_bind ⟨trivial, fun _ => trivial⟩ rest

theorem truthfulRun_report (diagnostic : Diagnostic) :
    TruthfulRun inVmx vcpu cpu (liftM (Program.report diagnostic) : Fallible Vcpu Unit) := by
  refine .of_quiet ?_ rfl
  exact ⟨trivial, fun _ => trivial⟩

/-- The requests that adjust the control registers. -/
theorem steps_adjustControlRegisters :
    hardware.steps (adjustControlRegisters.run vcpu) cpu
      = [(.readCr .cr0, cpu), (.readCr .cr4, cpu), (.readMsr Msr.cr0Fixed0, cpu),
          (.readMsr Msr.cr0Fixed1, cpu), (.readMsr Msr.cr4Fixed0, cpu),
          (.readMsr Msr.cr4Fixed1, cpu), (.writeCr .cr0 cpu.adjustedCr0, cpu),
          (.writeCr .cr4 cpu.adjustedCr4,
            (cpu.record (.writeCr .cr0 cpu.adjustedCr0)).setCr .cr0 cpu.adjustedCr0),
          (.enableInterrupts,
            (((cpu.record (.writeCr .cr0 cpu.adjustedCr0)).setCr .cr0 cpu.adjustedCr0).record
              (.writeCr .cr4 cpu.adjustedCr4)).setCr .cr4 cpu.adjustedCr4)] := by
  unfold adjustControlRegisters
  rw [Hardware.steps_owned_request, Hardware.steps_owned_request, Hardware.steps_owned_modify]
  repeat rw [Hardware.steps_owned_request]
  rfl

/-- With interrupts disabled, adjusting the control registers is masked. -/
theorem truthful_adjustControlRegisters (disabled : cpu.interruptsEnabled = false)
    (flag : cpu.vmxOperation = inVmx) :
    Truthful inVmx .off .vmxEnabled (hardware.steps (adjustControlRegisters.run vcpu) cpu) where
  advances := by decide
  entered := by rw [steps_adjustControlRegisters]; rfl
  loaded := by rw [steps_adjustControlRegisters]; rfl
  masked := by
    rw [steps_adjustControlRegisters]
    intro step mem register value write
    simp only [List.mem_cons, List.not_mem_nil, or_false] at mem
    rcases mem with rfl | rfl | rfl | rfl | rfl | rfl | rfl | rfl | rfl <;>
      exact ⟨disabled, flag⟩

theorem truthfulRun_enableVmx (featureControl : FeatureControlState) (off : vcpu.stage = .off)
    (flag : cpu.vmxOperation = inVmx) :
    TruthfulRun inVmx vcpu cpu (liftM (enableVmx featureControl) : Fallible Vcpu Unit) := by
  rw [TruthfulRun, execute_enableVmx, Hardware.stepsOf_owned, off]
  cases featureControl with
  | enabled =>
      rw [enableVmx_enabled, Hardware.steps_owned_request]
      refine .cons (by trivial) _ ?_
      exact truthful_adjustControlRegisters
        (SimulatedProcessor.interruptsEnabled_of_disabled rfl) flag
  | unlocked =>
      rw [enableVmx_unlocked, Hardware.steps_owned_request]
      refine .cons (by trivial) _ <| .cons (by trivial) _ <| .cons (by trivial) _ ?_
      refine .cons (by trivial) _ ?_
      exact truthful_adjustControlRegisters
        (SimulatedProcessor.interruptsEnabled_of_disabled rfl) flag

/-! ## Passing a stage -/

/-- A VMX instruction that passes a stage if it succeeds. -/
theorem truthfulRun_pass {op : Operation} {before after : Stage} (label : String)
    {program : Program (Except VmFail Unit)} (stage : vcpu.stage = before)
    (single : hardware.steps (instruction label program).run cpu = [(op, cpu)])
    (failed : ∀ fail cpu', hardware.run program cpu = (.error fail, cpu') →
      Truthful inVmx before before [(op, cpu)])
    (succeeded : ∀ cpu', hardware.run program cpu = (.ok (), cpu') →
      Truthful inVmx before after [(op, cpu)]) :
    TruthfulRun inVmx vcpu cpu
      (liftM (instruction label program) >>= fun _ => liftM (enter after)) := by
  rw [TruthfulRun, Hardware.stepsOf_bind, Hardware.execute_bind, Hardware.stepsOf_procedure, single]
  rcases answered : hardware.run program cpu with ⟨fail | ⟨⟩, cpu'⟩
  · rw [execute_instruction vcpu label answered, mapError_error, Execution.andThen_error, stage]
    exact failed fail cpu' answered
  · rw [execute_instruction vcpu label answered, mapError_ok, Execution.andThen_ok,
      execute_enter, stage]
    exact succeeded cpu' answered

/-! ## The parts behind the control registers -/

theorem truthfulRun_procedure {procedure : Procedure α}
    (quiet : procedure.run.Only Operation.Quiet) :
    TruthfulRun inVmx vcpu cpu (liftM procedure : Fallible Vcpu α) :=
  .of_quiet (quiet.start_procedure vcpu) (by rw [Hardware.execute_procedure])

/-- Stamping a region in front. -/
theorem TruthfulRun.stampRegion_bind {region : String}
    {stamp : BitVec 32 → VcpuMemory → VcpuMemory} {address : VcpuMemory → Word}
    {next : Word → Fallible Vcpu β} (rest : ∀ physical vcpu' cpu', vcpu'.stage = vcpu.stage →
      TruthfulRun inVmx vcpu' cpu' (next physical)) :
    TruthfulRun inVmx vcpu cpu (stampRegion region stamp address >>= next) :=
  quiet_bind (stampRegion_only (fun _ => Operation.Inert.quiet) region stamp address)
    (by rw [execute_stampRegion]) rest

/-- Behind the control registers, the stage tells whether VMXON succeeded. -/
theorem truthfulRun_enterVmxAt (vmxon : Word) (stage : vcpu.stage = .vmxEnabled) :
    TruthfulRun inVmx vcpu cpu (enterVmxAt vmxon) := by
  have masked := crWritesMasked_singleton (show ∀ register value, Operation.vmxon vmxon
    ≠ .writeCr register value from nofun) inVmx cpu
  unfold enterVmxAt
  rw [← bind_assoc]
  refine (truthfulRun_pass "VMXON" stage rfl (fun fail cpu' answered => ?_)
    fun cpu' answered => ?_).bind fun _ vcpu' cpu' _ => truthfulRun_procedure ?_
  · have refused : (cpu.vmxon vmxon).1 = .error fail := congrArg Prod.fst answered
    exact ⟨by decide, by rw [vmxonSucceeded_vmxon, refused]; rfl, rfl, masked⟩
  · have accepted : (cpu.vmxon vmxon).1 = .ok () := congrArg Prod.fst answered
    exact ⟨by decide, by rw [vmxonSucceeded_vmxon, accepted]; rfl, rfl, masked⟩
  · exact ⟨trivial, fun _ => trivial⟩

/-- In VMX operation, the stage tells whether VMPTRLD succeeded. -/
theorem truthfulRun_loadVmcsAt (vmcs : Word) (stage : vcpu.stage = .vmxOn) :
    TruthfulRun inVmx vcpu cpu (loadVmcsAt vmcs) := by
  refine .procedure_bind ⟨trivial, fun _ => trivial⟩ fun _ vcpu cpu cleared => ?_
  have masked := crWritesMasked_singleton (show ∀ register value, Operation.vmptrld vmcs
    ≠ .writeCr register value from nofun) inVmx cpu
  refine truthfulRun_pass "VMPTRLD" (cleared.trans stage) rfl (fun fail cpu' answered => ?_)
    fun cpu' answered => ?_
  · have refused : (cpu.vmptrld vmcs).1 = .error fail := congrArg Prod.fst answered
    exact ⟨by decide, rfl, by rw [vmptrldSucceeded_vmptrld, refused]; rfl, masked⟩
  · have accepted : (cpu.vmptrld vmcs).1 = .ok () := congrArg Prod.fst answered
    exact ⟨by decide, rfl, by rw [vmptrldSucceeded_vmptrld, accepted]; rfl, masked⟩

theorem truthfulRun_enterVmx (stage : vcpu.stage = .vmxEnabled) :
    TruthfulRun inVmx vcpu cpu enterVmx :=
  .stampRegion_bind fun vmxon _ _ stamped => truthfulRun_enterVmxAt vmxon (stamped.trans stage)

theorem truthfulRun_loadVmcs (stage : vcpu.stage = .vmxOn) :
    TruthfulRun inVmx vcpu cpu loadVmcs :=
  .stampRegion_bind fun vmcs _ _ stamped => truthfulRun_loadVmcsAt vmcs (stamped.trans stage)

theorem truthfulRun_fillAndLaunch (stage : vcpu.stage = .vmcsLoaded) :
    TruthfulRun inVmx vcpu cpu fillAndLaunch := by
  have prepared : (hardware.execute vcpu cpu (liftM prepare : Fallible Vcpu Unit)).record.stage
      = vcpu.stage := by
    rw [Hardware.execute_owned, run_prepare]
    rfl
  have launches : Vmcs.launch.run.Only Operation.Quiet :=
    launch_only (fun _ => Operation.Inert.quiet) trivial
  unfold fillAndLaunch
  refine .quiet_bind prepare_inert.quiet.start_owned prepared fun _ vcpu₁ cpu₁ stage₁ => ?_
  refine .report_bind fun _ vcpu₂ cpu₂ stage₂ => ?_
  refine .quiet_bind trivial rfl fun _ vcpu₃ cpu₃ stage₃ => ?_
  refine .procedure_bind ((Vmcs.populate_filling _).mono fun _ => Operation.Filling.quiet)
    fun _ vcpu₄ cpu₄ stage₄ => ?_
  refine .report_bind fun _ vcpu₅ cpu₅ stage₅ => ?_
  refine .procedure_bind launches fun _ vcpu₆ cpu₆ stage₆ => ?_
  have loaded : vcpu₆.stage = .vmcsLoaded := by
    rw [stage₆, stage₅, stage₄, stage₃, stage₂, stage₁, stage]
  have entered : TruthfulRun inVmx vcpu₆ cpu₆ (liftM (enter .launched) : Fallible Vcpu Unit) := by
    have none : hardware.stepsOf vcpu₆ cpu₆ (liftM (enter .launched) : Fallible Vcpu Unit) = [] :=
      rfl
    rw [TruthfulRun, execute_enter, none, loaded, stage_atStage]
    refine .of_quiet_loaded (fun _ mem => absurd mem List.not_mem_nil) ?_ ?_
    · rfl
    · decide
  refine entered.bind fun _ vcpu₇ cpu₇ _ => ?_
  refine .quiet_bind trivial rfl fun _ vcpu₈ cpu₈ _ => ?_
  exact truthfulRun_report _

/-! ## The whole bring-up -/

theorem of_execute_enterVmx_ok {vcpu' : Vcpu} {cpu' : SimulatedProcessor}
    (ended : hardware.execute vcpu cpu enterVmx = ⟨.ok (), vcpu', cpu'⟩) :
    vcpu'.stage = .vmxOn ∧ cpu'.vmxOperation = true := by
  rw [execute_enterVmx] at ended
  cases usable : cpu.pageAddress "VMXON" vcpu.memory.vmxonAddress with
  | error error =>
      rw [usable] at ended
      exact nomatch congrArg Execution.outcome ended
  | ok vmxon =>
      rw [usable] at ended
      by_cases admits : cpu.AdmitsVmxon
      · simp only [admits, if_true, Execution.mk.injEq, true_and] at ended
        obtain ⟨rfl, rfl⟩ := ended
        exact ⟨rfl, rfl⟩
      · simp only [admits, if_false] at ended
        exact nomatch congrArg Execution.outcome ended

theorem of_execute_loadVmcs_ok {vcpu' : Vcpu} {cpu' : SimulatedProcessor}
    (on : cpu.vmxOperation = true)
    (ended : hardware.execute vcpu cpu loadVmcs = ⟨.ok (), vcpu', cpu'⟩) :
    vcpu'.stage = .vmcsLoaded := by
  rw [execute_loadVmcs vcpu cpu on] at ended
  cases usable : cpu.pageAddress "VMCS" vcpu.memory.vmcsAddress with
  | error error =>
      rw [usable] at ended
      exact nomatch congrArg Execution.outcome ended
  | ok vmcs =>
      rw [usable] at ended
      exact (congrArg (·.record.stage) ended).symm

/-- **Wherever a bring-up ends, its stage is truthful.** -/
theorem bringUp_truthful (featureControl : FeatureControlState) (off : vcpu.stage = .off)
    (flag : cpu.vmxOperation = inVmx) :
    TruthfulRun inVmx vcpu cpu (bringUp featureControl) := by
  refine (truthfulRun_enableVmx featureControl off flag).bind fun _ vcpu₁ cpu₁ ended₁ => ?_
  refine .report_bind fun _ vcpu₂ cpu₂ stage₂ => ?_
  have enabled : vcpu₂.stage = .vmxEnabled := by
    rw [execute_enableVmx] at ended₁
    rw [stage₂]
    exact (congrArg (·.record.stage) ended₁).symm
  refine (truthfulRun_enterVmx enabled).bind fun _ vcpu₃ cpu₃ ended₃ => ?_
  obtain ⟨entered, on⟩ := of_execute_enterVmx_ok ended₃
  refine (truthfulRun_report _).bind fun _ vcpu₄ cpu₄ ended₄ => ?_
  obtain ⟨rfl, rfl⟩ : vcpu₃ = vcpu₄ ∧ cpu₃ = cpu₄ :=
    ⟨congrArg Execution.record ended₄, congrArg Execution.state ended₄⟩
  refine (truthfulRun_loadVmcs entered).bind fun _ vcpu₅ cpu₅ ended₅ => ?_
  refine .report_bind fun _ vcpu₆ cpu₆ stage₆ => ?_
  exact truthfulRun_fillAndLaunch (stage₆.trans (of_execute_loadVmcs_ok on ended₅))

/-! ## The undo -/

/-- Writing the control registers back is masked, and nothing is entered or loaded meanwhile. -/
theorem truthful_restoreControlRegisters (stage : Stage) (cr0 cr4 : Word)
    (flag : cpu.vmxOperation = inVmx) :
    Truthful inVmx stage stage (hardware.steps (restoreControlRegisters cr0 cr4) cpu) where
  advances := Nat.le_refl _
  entered := (Bool.and_not_self _).symm
  loaded := (Bool.and_not_self _).symm
  masked := by
    have disabled : (hardware.answer .disableInterrupts cpu).2.interruptsEnabled = false :=
      SimulatedProcessor.interruptsEnabled_of_disabled rfl
    have steps : hardware.steps (restoreControlRegisters cr0 cr4) cpu
        = (.disableInterrupts, cpu) ::
          (.writeCr .cr4 cr4, (hardware.answer .disableInterrupts cpu).2) ::
          (.writeCr .cr0 cr0, (((hardware.answer .disableInterrupts cpu).2).record
            (.writeCr .cr4 cr4)).setCr .cr4 cr4) ::
          (.enableInterrupts, (((((hardware.answer .disableInterrupts cpu).2).record
            (.writeCr .cr4 cr4)).setCr .cr4 cr4).record (.writeCr .cr0 cr0)).setCr .cr0 cr0) ::
          [] := rfl
    rw [steps]
    intro step mem register value write
    simp only [List.mem_cons, List.not_mem_nil, or_false] at mem
    rcases mem with rfl | rfl | rfl | rfl
    · exact nomatch write
    · exact ⟨disabled, flag⟩
    · exact ⟨disabled, flag⟩
    · exact nomatch write

/-- Leaving VMX operation and restoring the control registers is masked. -/
theorem truthful_undoVmx (stage : Stage)
    (on : vcpu.stage.reached .vmxOn → cpu.vmxOperation = true)
    (flag : (vcpu.undone cpu).vmxOperation = inVmx) :
    Truthful inVmx stage stage (hardware.steps vcpu.undoVmx cpu) := by
  have quiet : ∀ {program : Program Unit} (cpu : SimulatedProcessor),
      program.Only Operation.Quiet → Truthful inVmx stage stage (hardware.steps program cpu) :=
    fun cpu only => .of_quiet fun step mem => only.of_mem_steps mem
  have reported : ∀ diagnostic cpu, Truthful inVmx stage stage
      (hardware.steps (Program.report diagnostic) cpu) :=
    fun _ cpu => quiet cpu ⟨trivial, fun _ => trivial⟩
  have restored : ∀ cr0 cr4 diagnostic (cpu : SimulatedProcessor), cpu.vmxOperation = inVmx →
      Truthful inVmx stage stage (hardware.steps
        (restoreControlRegisters cr0 cr4 >>= fun _ => Program.report diagnostic) cpu) := by
    intro cr0 cr4 diagnostic cpu flag
    rw [Hardware.steps_bind]
    exact (truthful_restoreControlRegisters stage _ _ flag).append (reported _ _)
  unfold undoVmx
  dsimp only
  split
  · next entered =>
      have left : false = inVmx := (if_pos entered).symm.trans flag
      rw [Hardware.steps_bind, run_leaveVmx cpu (on entered)]
      refine (quiet cpu leaveVmx_inert.quiet).append ?_
      split
      · exact restored _ _ _ _ left
      · exact reported _ _
  · next outside =>
      have kept : cpu.vmxOperation = inVmx := (if_neg outside).symm.trans flag
      split
      · exact restored _ _ _ _ kept
      · exact reported _ _

/-- **Undoing writes the control registers once the flag of VMX operation is what it stays.** -/
theorem truthful_undo (stage : Stage)
    (on : vcpu.stage.reached .vmxOn → cpu.vmxOperation = true)
    (flag : (vcpu.undone cpu).vmxOperation = inVmx) :
    Truthful inVmx stage stage (hardware.steps vcpu.undo cpu) := by
  by_cases loaded : vcpu.stage.reached .vmcsLoaded
  · have entered : vcpu.stage.reached .vmxOn := by
      revert loaded
      cases vcpu.stage <;> decide
    obtain ⟨current, cleared⟩ := run_clearVmcs cpu vcpu.memory (on entered)
    have clears := clearVmcs_only (fun _ => Operation.Inert.quiet) vcpu.memory fun _ => trivial
    rw [undo_of_reached loaded, Hardware.steps_bind, cleared]
    have first : Truthful inVmx stage stage (hardware.steps (clearVmcs vcpu.memory) cpu) :=
      .of_quiet fun step mem => clears.of_mem_steps mem
    exact first.append (truthful_undoVmx stage on flag)
  · rw [undo_of_not_reached loaded]
    exact truthful_undoVmx stage on flag

/-! ## A whole virtualization -/

/-- The furthest stage of a virtualization, before anything is undone. -/
def furthestStage (vcpu : Vcpu) (cpu : SimulatedProcessor) : Stage :=
  match cpu.checkOutcome with
  | .error _ => .off
  | .ok featureControl => (hardware.execute vcpu cpu (bringUp featureControl)).record.stage

/-- Undoing a failed bring-up ends in or out of VMX operation as the bring-up began. -/
theorem BringUpEnds.undone_vmxOperation {featureControl : FeatureControlState} {error : Error}
    {record : Vcpu} {state : SimulatedProcessor}
    (fails : BringUpEnds vcpu cpu featureControl ⟨.error error, record, state⟩) :
    (record.undone state).vmxOperation = cpu.vmxOperation := by
  cases fails with
  | unusableVmxon => rfl
  | refusedVmxon => rfl
  | unmappedVmcs enters => exact enters.outside.symm
  | unmappedBitmap fills => exact fills.outside.symm
  | failedLaunch fills => exact fills.outside.symm

/-- A report requests nothing of the processor. -/
theorem truthful_report (stage : Stage) (diagnostic : Diagnostic) :
    Truthful inVmx stage stage (hardware.stepsOf vcpu cpu
      (liftM (Program.report diagnostic) : Fallible Vcpu Unit)) := by
  rw [Hardware.stepsOf_program]
  exact .cons (by trivial) _ .nil

theorem truthful_giveUp (stage : Stage) (index : BitVec 32) (error : Error)
    (pending : vcpu.stage ≠ .launched) (on : vcpu.stage.reached .vmxOn → cpu.vmxOperation = true)
    (flag : (vcpu.undone cpu).vmxOperation = inVmx) :
    Truthful inVmx stage stage (hardware.stepsOf vcpu cpu (giveUp index error)) := by
  have nothing : hardware.stepsOf vcpu cpu (get : Fallible Vcpu Vcpu) = [] := rfl
  have reported : ∀ diagnostic, hardware.run (Program.report diagnostic) cpu = ((), cpu) :=
    fun _ => rfl
  unfold giveUp
  rw [Hardware.stepsOf_bind, nothing, Hardware.execute_get, List.nil_append]
  dsimp only
  rw [Hardware.stepsOf_bind, Hardware.execute_program, reported]
  refine (truthful_report _ _).append ?_
  dsimp only
  rw [Hardware.stepsOf_bind, Hardware.stepsOf_owned, Hardware.execute_owned, teardown_eq _ pending,
    Hardware.steps_bind]
  exact ((truthful_undo stage on flag).append .nil).append .nil

/-- **The requests of a virtualization tell its furthest stage**: VMXON succeeded exactly if the
stage passed `vmxOn`, VMPTRLD exactly if it passed `vmcsLoaded`, and the undo changed neither. -/
theorem virtualize_truthful (off : vcpu.stage = .off) :
    Truthful cpu.vmxOperation .off (vcpu.furthestStage cpu)
      (hardware.stepsOf vcpu cpu virtualize) := by
  have nothing : hardware.stepsOf vcpu cpu (get : Fallible Vcpu Vcpu) = [] := rfl
  have reported : ∀ diagnostic, hardware.run (Program.report diagnostic) cpu = ((), cpu) :=
    fun _ => rfl
  have checked : Truthful cpu.vmxOperation .off .off (hardware.steps Support.check.run cpu) :=
    .of_quiet fun step mem => check_inert.quiet.of_mem_steps mem
  unfold virtualize Script.virtualize furthestStage
  rw [Hardware.stepsOf_bind, nothing, Hardware.execute_get, List.nil_append]
  dsimp only
  rw [if_neg (not_not_intro off), attempt, Hardware.stepsOf_bind, Hardware.execute_program,
    reported]
  refine (truthful_report _ _).append ?_
  dsimp only
  rw [Hardware.stepsOf_bind, Hardware.stepsOf_procedure, Hardware.execute_procedure,
    SimulatedProcessor.run_check]
  refine checked.append ?_
  cases cpu.checkOutcome with
  | error error => exact .nil
  | ok featureControl =>
      have ends := bringUpEnds vcpu cpu featureControl
      have truthful := bringUp_truthful featureControl off (@rfl _ cpu.vmxOperation)
      dsimp only
      rw [Hardware.stepsOf_tryCatch]
      rw [TruthfulRun, off] at truthful
      refine truthful.append ?_
      revert ends
      rcases hardware.execute vcpu cpu (bringUp featureControl) with ⟨error | value, record, state⟩
      · intro fails
        obtain ⟨pending, on⟩ := fails.stage_sound
        exact truthful_giveUp _ vcpu.index error pending on fails.undone_vmxOperation
      · intro _
        exact .nil

end Vcpu

end VtxMonitor
