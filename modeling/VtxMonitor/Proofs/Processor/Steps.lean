import VtxMonitor.Proofs.Processor.Execution

/-!
# Proofs/Processor/Steps — the requests of a run, and the requests a program can make

`Hardware.steps` lists the requests of a run, each with the state it is made in; like executing, it
commutes with sequencing (`steps_bind`, `stepsOf_bind`).  `Program.Only` bounds the requests of a
program whatever it is answered, and **no run makes a request outside of that bound**
(`Program.Only.of_mem_steps`).
-/

namespace VtxMonitor

variable {ρ σ α β : Type}

namespace Hardware

/-- The requests that a run makes, in order, each with the state it is made in. -/
def steps (hw : Hardware σ) : Program α → σ → List (Operation × σ)
  | .done _, _ => []
  | .perform op next, s => (op, s) :: hw.steps (next (hw.answer op s).1) (hw.answer op s).2

theorem steps_bind (hw : Hardware σ) (program : Program α) (next : α → Program β)
    (s : σ) : hw.steps (program >>= next) s
      = hw.steps program s ++ hw.steps (next (hw.run program s).1) (hw.run program s).2 := by
  induction program generalizing s with
  | done value => rfl
  | perform op rest ih => exact congrArg ((op, s) :: ·) (ih _ _)

/-- The requests that the execution of a program with a record makes. -/
def stepsOf (hw : Hardware σ) (record : ρ) (s : σ) (procedure : Fallible ρ α) :
    List (Operation × σ) :=
  hw.steps (procedure.start record) s

variable (hw : Hardware σ) (record : ρ) (s : σ)

/-- **The requests of a sequence**: those of its first part, and if that ends with a value, those
of the rest. -/
theorem stepsOf_bind (procedure : Fallible ρ α) (next : α → Fallible ρ β) :
    hw.stepsOf record s (procedure >>= next)
      = hw.stepsOf record s procedure ++
        match hw.execute record s procedure with
        | ⟨.ok value, record, s⟩ => hw.stepsOf record s (next value)
        | ⟨.error _, _, _⟩ => [] := by
  simp only [stepsOf, execute, Fallible.start_bind, steps_bind]
  rcases hw.run (procedure.start record) s with ⟨⟨_ | _, _⟩, _⟩ <;> rfl

/-- The requests of a procedure with a handler: those of the procedure, and if that ends with an
error, those of the handler. -/
theorem stepsOf_tryCatch (procedure : Fallible ρ α) (handler : Error → Fallible ρ α) :
    hw.stepsOf record s (tryCatch procedure handler)
      = hw.stepsOf record s procedure ++
        match hw.execute record s procedure with
        | ⟨.ok _, _, _⟩ => []
        | ⟨.error error, record, s⟩ => hw.stepsOf record s (handler error) := by
  simp only [stepsOf, execute, Fallible.start_tryCatch, steps_bind]
  rcases hw.run (procedure.start record) s with ⟨⟨_ | _, _⟩, _⟩ <;> rfl

/-- The requests of procedures in sequence: an error ends them. -/
theorem steps_procedure_bind (procedure : Procedure α) (next : α → Procedure β) :
    hw.steps (procedure >>= next).run s
      = hw.steps procedure.run s ++
        match hw.run procedure.run s with
        | (.ok value, s) => hw.steps (next value).run s
        | (.error _, _) => [] := by
  rw [Procedure.run_bind, steps_bind]
  rcases hw.run procedure.run s with ⟨_ | _, _⟩ <;> rfl

/-- A plain program within a procedure. -/
theorem steps_procedure_program (program : Program α) (next : α → Procedure β) :
    hw.steps (liftM program >>= next).run s
      = hw.steps program s ++ hw.steps (next (hw.run program s).1).run (hw.run program s).2 := by
  have ran : hw.run (liftM program : Procedure α).run s
      = (.ok (hw.run program s).1, (hw.run program s).2) := run_bind hw _ _ _
  have requests : hw.steps (liftM program : Procedure α).run s = hw.steps program s := by
    rw [show (liftM program : Procedure α).run = program >>= fun value => pure (.ok value) from rfl,
      steps_bind]
    exact List.append_nil _
  rw [steps_procedure_bind, ran, requests]

theorem stepsOf_program (program : Program α) :
    hw.stepsOf record s (liftM program : Fallible ρ α) = hw.steps program s := by
  rw [stepsOf, Fallible.start_program, steps_bind, steps_bind]
  simp [steps]

theorem stepsOf_procedure (procedure : Procedure α) :
    hw.stepsOf record s (liftM procedure : Fallible ρ α) = hw.steps procedure.run s := by
  rw [stepsOf, Fallible.start_procedure, steps_bind]
  simp [steps]

theorem stepsOf_owned (program : Owned ρ α) :
    hw.stepsOf record s (liftM program : Fallible ρ α) = hw.steps (program.run record) s := by
  rw [stepsOf, Fallible.start_owned, steps_bind]
  simp [steps]

/-! ## Requests and end of an execution together -/

/-- Everything that can be seen of an execution: the requests that it makes, and how it ends. -/
def observe (procedure : Fallible ρ α) : List (Operation × σ) × Execution ρ σ α :=
  (hw.stepsOf record s procedure, hw.execute record s procedure)

/-- A sequence, where the first part returns. -/
theorem observe_bind_ok {procedure : Fallible ρ α} {next : α → Fallible ρ β} {record record' : ρ}
    {s s' : σ} {requests : List (Operation × σ)} {value : α}
    (first : hw.observe record s procedure = (requests, ⟨.ok value, record', s'⟩)) :
    hw.observe record s (procedure >>= next)
      = (requests ++ (hw.observe record' s' (next value)).1,
        (hw.observe record' s' (next value)).2) := by
  obtain ⟨steps, ended⟩ := Prod.ext_iff.1 first
  simp only [observe] at steps ended ⊢
  rw [stepsOf_bind, execute_bind, steps, ended, Execution.andThen_ok]

/-- A sequence, where the first part fails. -/
theorem observe_bind_error {procedure : Fallible ρ α} {next : α → Fallible ρ β}
    {record record' : ρ} {s s' : σ} {requests : List (Operation × σ)} {error : Error}
    (first : hw.observe record s procedure = (requests, ⟨.error error, record', s'⟩)) :
    hw.observe record s (procedure >>= next) = (requests, ⟨.error error, record', s'⟩) := by
  obtain ⟨steps, ended⟩ := Prod.ext_iff.1 first
  simp only [observe] at steps ended ⊢
  rw [stepsOf_bind, execute_bind, steps, ended, Execution.andThen_error, List.append_nil]

theorem observe_get : hw.observe record s (get : Fallible ρ ρ) = ([], ⟨.ok record, record, s⟩) :=
  rfl

theorem observe_report (diagnostic : Diagnostic) :
    hw.observe record s (liftM (Program.report diagnostic) : Fallible ρ Unit)
      = ([(.report diagnostic, s)], ⟨.ok (), record, (hw.answer (.report diagnostic) s).2⟩) := rfl

theorem observe_program (program : Program α) :
    hw.observe record s (liftM program : Fallible ρ α)
      = (hw.steps program s, ⟨.ok (hw.run program s).1, record, (hw.run program s).2⟩) :=
  Prod.ext (stepsOf_program hw record s program) (execute_program hw record s program)

theorem observe_procedure (procedure : Procedure α) :
    hw.observe record s (liftM procedure : Fallible ρ α)
      = (hw.steps procedure.run s,
        ⟨(hw.run procedure.run s).1, record, (hw.run procedure.run s).2⟩) :=
  Prod.ext (stepsOf_procedure hw record s procedure) (execute_procedure hw record s procedure)

/-! ## Single steps -/

theorem steps_owned_request (op : Operation) (next : op.Reply → Owned ρ β) :
    hw.steps ((liftM (Program.request op) >>= next : Owned ρ β).run record) s
      = (op, s) :: hw.steps ((next (hw.answer op s).1).run record) (hw.answer op s).2 := rfl

theorem steps_owned_modify (f : ρ → ρ) (next : Unit → Owned ρ β) :
    hw.steps ((modify f >>= next : Owned ρ β).run record) s
      = hw.steps ((next ()).run (f record)) s := rfl

end Hardware

namespace Program

/-- Whatever a program is answered, it only makes requests that satisfy a predicate. -/
def Only (P : Operation → Prop) : Program α → Prop
  | .done _ => True
  | .perform op next => P op ∧ ∀ reply, (next reply).Only P

variable {P Q : Operation → Prop}

theorem Only.bind {program : Program α} {next : α → Program β} (first : program.Only P)
    (rest : ∀ value, (next value).Only P) : (program >>= next).Only P := by
  induction program with
  | done value => exact rest value
  | perform op after ih => exact ⟨first.1, fun reply => ih reply (first.2 reply)⟩

theorem Only.procedure_bind {procedure : Procedure α} {next : α → Procedure β}
    (first : procedure.run.Only P) (rest : ∀ value, (next value).run.Only P) :
    (procedure >>= next).run.Only P :=
  first.bind fun
    | .ok value => rest value
    | .error _ => trivial

theorem Only.pure (value : α) : (Pure.pure value : Program α).Only P := trivial

/-- A single request within a procedure. -/
theorem Only.procedure_request {op : Operation} (h : P op) :
    (liftM (Program.request op) : Procedure op.Reply).run.Only P :=
  ⟨h, fun _ => trivial⟩

/-- A plain program within a procedure. -/
theorem Only.procedure_program {program : Program α} (only : program.Only P) :
    (liftM program : Procedure α).run.Only P :=
  only.bind fun _ => .pure _

/-- A single request of a program that owns a record. -/
theorem Only.owned_request {record : ρ} {op : Operation} (h : P op) :
    ((liftM (Program.request op) : Owned ρ op.Reply).run record).Only P :=
  ⟨h, fun _ => trivial⟩

theorem Only.owned_bind {program : Owned ρ α} {next : α → Owned ρ β} {record : ρ}
    (first : (program.run record).Only P)
    (rest : ∀ value record, ((next value).run record).Only P) :
    ((program >>= next).run record).Only P :=
  first.bind fun ended => rest ended.1 ended.2

theorem Only.owned_program {program : Program α} (only : program.Only P) (record : ρ) :
    ((liftM program : Owned ρ α).run record).Only P :=
  only.bind fun _ => .pure _

theorem Only.start_bind {procedure : Fallible ρ α} {next : α → Fallible ρ β} {record : ρ}
    (first : (procedure.start record).Only P)
    (rest : ∀ value record, ((next value).start record).Only P) :
    ((procedure >>= next).start record).Only P := by
  rw [Fallible.start_bind]
  refine first.bind fun ended => ?_
  rcases ended with ⟨_ | value, record⟩
  · trivial
  · exact rest value record

theorem Only.start_program {program : Program α} (only : program.Only P) (record : ρ) :
    ((liftM program : Fallible ρ α).start record).Only P := by
  rw [Fallible.start_program]
  exact (only.bind fun _ => .pure _).bind fun _ => .pure _

theorem Only.start_procedure {procedure : Procedure α} (only : procedure.run.Only P)
    (record : ρ) : ((liftM procedure : Fallible ρ α).start record).Only P := by
  rw [Fallible.start_procedure]
  exact only.bind fun _ => .pure _

theorem Only.start_owned {program : Owned ρ α} {record : ρ} (only : (program.run record).Only P) :
    ((liftM program : Fallible ρ α).start record).Only P := by
  rw [Fallible.start_owned]
  exact only.bind fun _ => .pure _

theorem Only.mono {program : Program α} (only : program.Only P) (h : ∀ op, P op → Q op) :
    program.Only Q := by
  induction program with
  | done value => trivial
  | perform op next ih => exact ⟨h op only.1, fun reply => ih reply (only.2 reply)⟩

/-- **No run makes a request outside of the bound of its program.** -/
theorem Only.of_mem_steps {program : Program α} (only : program.Only P) {hw : Hardware σ} {s : σ}
    {step : Operation × σ} (h : step ∈ hw.steps program s) : P step.1 := by
  induction program generalizing s with
  | done value => exact absurd h List.not_mem_nil
  | perform op next ih =>
      rcases List.mem_cons.1 h with rfl | h
      · exact only.1
      · exact ih _ (only.2 _) h

/-- A request outside of the bound of the first part of a sequence comes from the rest. -/
theorem Only.mem_rest {procedure : Fallible ρ α} {next : α → Fallible ρ β} {record record' : ρ}
    (only : (procedure.start record).Only P) {hw : Hardware σ} {s s' : σ} {value : α}
    (ended : hw.execute record s procedure = ⟨.ok value, record', s'⟩) {step : Operation × σ}
    (mem : step ∈ hw.stepsOf record s (procedure >>= next)) (excluded : ¬P step.1) :
    step ∈ hw.stepsOf record' s' (next value) := by
  rw [Hardware.stepsOf_bind, ended] at mem
  rcases List.mem_append.1 mem with mem | mem
  · exact absurd (only.of_mem_steps mem) excluded
  · exact mem

end Program

end VtxMonitor
