import VtxMonitor.Proofs.Machine.StraightLine

/-!
# Proofs/Machine/CodeTrace — the steps that a run of an entry point takes

`Code.trace` lists the steps of a run, each with the core and the surroundings that it finds, and
`Code.events` those of them that leave the straight-line code: calls, VMRESUME and IRETQ.  **A run
that does not end in a fault takes only aligned steps** (`Code.isAligned_of_trace`), and the record
of a machine shows exactly the VMRESUMEs among the events (`Code.resumed_run`).
-/

namespace VtxMonitor

variable {ρ σ : Type}

/-- A step of an entry point, with the core and the surroundings that it finds. -/
structure CodeMoment (ρ σ : Type) where
  step : CodeStep ρ
  core : Core
  surroundings : σ

namespace CodeMoment

/-- Whether a step is aligned where it has to be. -/
def isAligned : CodeMoment ρ σ → Bool
  | ⟨.plain (.saveXmm offset _), core, _⟩ => isAligned16 (core.rsp + offset)
  | ⟨.plain (.restoreXmm _ offset), core, _⟩ => isAligned16 (core.rsp + offset)
  | ⟨.call _, core, _⟩ => isAligned16 core.rsp
  | _ => true

/-- Whether a step leaves the straight-line code. -/
def isEvent : CodeMoment ρ σ → Bool
  | ⟨.plain _, _, _⟩ => false
  | _ => true

/-- Whether a step is a VMRESUME. -/
def isResumption : CodeMoment ρ σ → Bool
  | ⟨.vmresume, _, _⟩ => true
  | _ => false

theorem isAligned_of_step {instruction : Instruction} {core core' : Core} (s : σ)
    (executed : instruction.step core = some core') :
    isAligned (⟨.plain instruction, core, s⟩ : CodeMoment ρ σ) = true := by
  cases instruction with
  | saveXmm offset i | restoreXmm i offset =>
      exact (Option.ite_none_right_eq_some.1 executed).1
  | _ => rfl

end CodeMoment

namespace Code

variable (env : Environment ρ σ)

/-- The steps of a run, in order. -/
def trace : Code ρ → Core → σ → List (CodeMoment ρ σ)
  | [], _, _ => []
  | .plain instruction :: rest, core, s =>
      ⟨.plain instruction, core, s⟩ ::
        match instruction.step core with
        | none => []
        | some core => trace rest core s
  | .call routine :: rest, core, s =>
      ⟨.call routine, core, s⟩ ::
        if isAligned16 core.rsp then
          match env.call routine core s with
          | (none, _) => []
          | (some core, s) => trace rest core s
        else []
  | .vmresume :: rest, core, s =>
      ⟨.vmresume, core, s⟩ ::
        match env.resume s with
        | (true, _) => []
        | (false, s) => trace rest core s
  | .iretq :: _, core, s => [⟨.iretq, core, s⟩]

/-- The steps of a run that leave the straight-line code, in order. -/
def events (code : Code ρ) (core : Core) (s : σ) : List (CodeMoment ρ σ) :=
  (code.trace env core s).filter CodeMoment.isEvent

/-- The VMRESUMEs of a run. -/
def resumptions (code : Code ρ) (core : Core) (s : σ) : List (CodeMoment ρ σ) :=
  (code.events env core s).filter CodeMoment.isResumption

attribute [local simp] run trace

variable {env} {core core' : Core} {s s' : σ} {rest : Code ρ}

/-- **A run that does not end in a fault takes only aligned steps.** -/
theorem isAligned_of_trace {code : Code ρ} (ends : (code.run env core s).1 ≠ .fault) :
    ∀ moment ∈ code.trace env core s, moment.isAligned = true := by
  induction code generalizing core s with
  | nil => exact fun _ mem => absurd mem List.not_mem_nil
  | cons step rest ih =>
      cases step with
      | plain instruction =>
          rw [run] at ends
          rw [trace]
          cases executed : instruction.step core with
          | none => exact absurd (by rw [executed]) ends
          | some core' =>
              rw [executed] at ends
              exact List.forall_mem_cons.2 ⟨CodeMoment.isAligned_of_step s executed, ih ends⟩
      | call routine =>
          rw [run] at ends
          rw [trace]
          by_cases aligned : isAligned16 core.rsp = true
          · rw [if_pos aligned] at ends ⊢
            refine List.forall_mem_cons.2 ⟨aligned, ?_⟩
            generalize env.call routine core s = returned at ends ⊢
            match returned, ends with
            | (none, _), _ => exact fun _ mem => absurd mem List.not_mem_nil
            | (some core', s'), ends => exact ih ends
          · exact absurd (by rw [if_neg aligned]) ends
      | vmresume =>
          rw [run] at ends
          rw [trace]
          refine List.forall_mem_cons.2 ⟨rfl, ?_⟩
          generalize env.resume s = resumed at ends ⊢
          match resumed, ends with
          | (true, _), _ => exact fun _ mem => absurd mem List.not_mem_nil
          | (false, s'), ends => exact ih ends
      | iretq => exact List.forall_mem_singleton.2 rfl

/-! ## One step after the other -/

section Plain

variable {l : List Instruction}

theorem run_plain (executed : Instruction.steps core l = some core') :
    run env (plain l ++ rest) core s = run env rest core' s := by
  induction l generalizing core with
  | nil => cases executed; rfl
  | cons instruction l ih =>
      obtain ⟨next, stepped, executed⟩ := Option.bind_eq_some_iff.1 executed
      refine Eq.trans ?_ (ih executed)
      simp [plain, stepped]

theorem events_plain (executed : Instruction.steps core l = some core') :
    events env (plain l ++ rest) core s = events env rest core' s := by
  induction l generalizing core with
  | nil => cases executed; rfl
  | cons instruction l ih =>
      obtain ⟨next, stepped, executed⟩ := Option.bind_eq_some_iff.1 executed
      refine Eq.trans ?_ (ih executed)
      simp [events, plain, stepped]
      rfl

end Plain

section Call

variable {routine : ρ} (aligned : isAligned16 core.rsp = true)
include aligned

theorem run_call_returns (returns : env.call routine core s = (some core', s')) :
    run env (.call routine :: rest) core s = run env rest core' s' := by
  simp [aligned, returns]

theorem run_call_halts (halts : env.call routine core s = (none, s')) :
    run env (.call routine :: rest) core s = (.halted, s') := by
  simp [aligned, halts]

theorem events_call_returns (returns : env.call routine core s = (some core', s')) :
    events env (.call routine :: rest) core s
      = ⟨.call routine, core, s⟩ :: events env rest core' s' := by
  rw [events, trace, if_pos aligned, returns]
  rfl

theorem events_call_halts (halts : env.call routine core s = (none, s')) :
    events env (.call routine :: rest) core s = [⟨.call routine, core, s⟩] := by
  rw [events, trace, if_pos aligned, halts]
  rfl

end Call

theorem run_vmresume_enters (enters : env.resume s = (true, s')) :
    run env (.vmresume :: rest) core s = (.guest core, s') := by
  simp [enters]

theorem run_vmresume_fails (fails : env.resume s = (false, s')) :
    run env (.vmresume :: rest) core s = run env rest core s' := by
  simp [fails]

theorem events_vmresume_enters (enters : env.resume s = (true, s')) :
    events env (.vmresume :: rest) core s = [⟨.vmresume, core, s⟩] := by
  rw [events, trace, enters]
  rfl

theorem events_vmresume_fails (fails : env.resume s = (false, s')) :
    events env (.vmresume :: rest) core s = ⟨.vmresume, core, s⟩ :: events env rest core s' := by
  rw [events, trace, fails]
  rfl

end Code

/-! ## The record of a machine -/

/-- No request to a machine is answered by a VMRESUME. -/
theorem Machine.count_vmresume_answer (op : Operation) (m : Machine) :
    (Machine.answer op m).2.executed.count .vmresume = m.executed.count .vmresume := by
  have recorded (instructions : List PrivilegedInstruction)
      (others : instructions.count .vmresume = 0) :
      (m.execute instructions).executed.count .vmresume = m.executed.count .vmresume := by
    rw [Machine.execute, List.count_append, others, Nat.add_zero]
  cases op with
  | writeCr register value => cases register <;> exact recorded _ rfl
  | inveptAll =>
      have guards : (m.guardMsrs.map PrivilegedInstruction.rdmsr).count .vmresume = 0 := by
        rw [Machine.guardMsrs]
        split
        · rfl
        · split <;> rfl
      rw [Machine.answer, Machine.inveptAll]
      split
      · refine Eq.trans ?_ (recorded _ guards)
        rw [Machine.execute, List.count_append]
        rfl
      · exact recorded _ guards
  | cpuid | readRflags | gdtr | idtr | tableEntry | selectors | physicalAddress | exitEntryPoint
  | interruptEntryPoints | report => rfl
  | _ => exact recorded _ rfl

theorem Machine.count_vmresume_run {α : Type} (program : Program α) (m : Machine) :
    (hardware.run program m).2.executed.count .vmresume = m.executed.count .vmresume := by
  induction program generalizing m with
  | done value => rfl
  | perform op next ih => exact (ih _ _).trans (Machine.count_vmresume_answer op m)

namespace Session

/-- How many VMRESUMEs the machine has executed. -/
def resumed (session : Session Machine) : Nat := session.processor.executed.count .vmresume

theorem resumed_execute (instructions : List PrivilegedInstruction) (session : Session Machine) :
    (session.execute instructions).resumed = session.resumed + instructions.count .vmresume :=
  List.count_append

theorem resumed_report (diagnostic : Diagnostic) (session : Session Machine) :
    (session.report diagnostic).resumed = session.resumed := rfl

theorem resumed_halt (session : Session Machine) : session.halt.resumed = session.resumed :=
  resumed_execute [.cli, .hlt] session

theorem resumed_breakAndHalt (session : Session Machine) :
    session.breakAndHalt.resumed = session.resumed :=
  (resumed_halt _).trans (resumed_execute [.int3] session)

theorem resumed_run {α : Type} (program : Program α) (session : Session Machine) :
    (session.run Machine.hardware program).2.resumed = session.resumed := by
  have processor : (session.run Machine.hardware program).2.processor
      = (Machine.hardware.run program session.processor).2 :=
    Machine.hardware.runLogged_snd_fst program session.processor session.journal
  rw [resumed, processor]
  exact Machine.count_vmresume_run program session.processor

theorem resumed_handleTrap (frame : TrapFrame) (session : Session Machine) :
    (session.handleTrap frame).resumed = session.resumed := by
  have handled := resumed_run frame.handle.run session
  unfold handleTrap
  dsimp only
  split
  · exact handled
  · exact (resumed_report _ _).trans handled

/-- No routine behind an entry point executes a VMRESUME. -/
theorem resumed_call (scratch core : Core) (routine : Routine) (session : Session Machine) :
    ((routines scratch).call routine core session).2.resumed = session.resumed := by
  cases routine with
  | handleExit =>
      change (session.handleExitRoutine scratch core).2.resumed = session.resumed
      unfold handleExitRoutine
      dsimp only
      split
      · exact resumed_halt session
      next vcpu _ =>
        have dispatched :=
          resumed_run (vcpu.handleExit.start (.load core.memory (core.gpr .rsi))) session
        split
        · exact resumed_halt session
        split
        · exact (resumed_halt _).trans (resumed_report _ session)
        split
        · exact (resumed_breakAndHalt _).trans ((resumed_report _ _).trans dispatched)
        · exact dispatched
  | resumeFailed =>
      have read := resumed_run Vmcs.readInstructionError.run session
      exact (resumed_breakAndHalt _).trans ((resumed_report _ _).trans read)
  | handleInterrupt =>
      change (session.handleInterruptRoutine core).resumed = session.resumed
      unfold handleInterruptRoutine
      dsimp only
      split
      · rfl
      · exact resumed_handleTrap _ session

end Session

/-- **The record of the machine shows exactly the VMRESUMEs of a run.** -/
theorem Code.resumed_run (code : Code Routine) (scratch core : Core) (session : Session Machine) :
    (code.run (Session.routines scratch) core session).2.resumed
      = session.resumed + (code.resumptions (Session.routines scratch) core session).length := by
  induction code generalizing core session with
  | nil => rfl
  | cons step rest ih =>
      cases step with
      | plain instruction =>
          rw [run, resumptions, events, trace]
          cases instruction.step core with
          | none => rfl
          | some core' => exact ih core' session
      | call routine =>
          have kept := Session.resumed_call scratch core routine session
          rw [run, resumptions, events, trace]
          split
          · generalize (Session.routines scratch).call routine core session = returned at kept ⊢
            match returned with
            | (none, session') => exact kept
            | (some core', session') => exact kept ▸ ih core' session'
          · rfl
      | vmresume =>
          have once : ((Session.routines scratch).resume session).2.resumed = session.resumed + 1 :=
            Session.resumed_execute [.vmresume] session
          rw [run, resumptions, events, trace]
          generalize (Session.routines scratch).resume session = answered at once ⊢
          match answered with
          | (true, session') => exact once
          | (false, session') =>
              refine (ih core session').trans ?_
              rw [once, Nat.add_assoc, Nat.add_comm 1]
              rfl
      | iretq => rfl

end VtxMonitor
