import VtxMonitor.Processor.Procedure

/-!
# Proofs/Processor/Execution — how a program that owns a record and may fail ends

`Hardware.execute` runs such a program to its `Execution`: the outcome, the record and the state it
leaves.  **Executing commutes with sequencing** (`execute_bind`), and an error ends everything
behind it, so the execution of a composite program is read off the executions of its parts.
-/

namespace VtxMonitor

variable {ρ σ α β : Type}

/-- How a program that owns a record of type `ρ` ends on a processor of state `σ`. -/
@[ext]
structure Execution (ρ σ α : Type) where
  outcome : Except Error α
  record : ρ
  state : σ

namespace Execution

/-- Goes on from the value of an execution; an error stays the end. -/
def andThen (execution : Execution ρ σ α) (next : α → ρ → σ → Execution ρ σ β) :
    Execution ρ σ β :=
  match execution.outcome with
  | .ok value => next value execution.record execution.state
  | .error error => ⟨.error error, execution.record, execution.state⟩

@[simp] theorem andThen_ok (value : α) (record : ρ) (s : σ)
    (next : α → ρ → σ → Execution ρ σ β) :
    (Execution.mk (.ok value) record s).andThen next = next value record s := rfl

@[simp] theorem andThen_error (error : Error) (record : ρ) (s : σ)
    (next : α → ρ → σ → Execution ρ σ β) :
    (Execution.mk (.error error) record s).andThen next = ⟨.error error, record, s⟩ := rfl

end Execution

/-- Sequencing, before anything is run: what comes behind is started on the record left so far. -/
theorem Fallible.start_bind (record : ρ) (procedure : Fallible ρ α) (next : α → Fallible ρ β) :
    (procedure >>= next).start record = procedure.start record >>= fun ended =>
      match ended.1 with
      | .ok value => (next value).start ended.2
      | .error error => pure (.error error, ended.2) := by
  refine congrArg (procedure.start record >>= ·) (funext fun ended => ?_)
  rcases ended with ⟨_ | _, _⟩ <;> rfl

theorem Fallible.start_program (record : ρ) (program : Program α) :
    (liftM program : Fallible ρ α).start record
      = (program >>= fun value => pure (.ok value)) >>= fun outcome => pure (outcome, record) := rfl

theorem Fallible.start_procedure (record : ρ) (procedure : Procedure α) :
    (liftM procedure : Fallible ρ α).start record
      = procedure.run >>= fun outcome => pure (outcome, record) := rfl

theorem Fallible.start_owned (record : ρ) (program : Owned ρ α) :
    (liftM program : Fallible ρ α).start record
      = program.run record >>= fun ended => pure (.ok ended.1, ended.2) := rfl

/-- A handler is started where the error left the record. -/
theorem Fallible.start_tryCatch (record : ρ) (procedure : Fallible ρ α)
    (handler : Error → Fallible ρ α) :
    (tryCatch procedure handler).start record = procedure.start record >>= fun ended =>
      match ended.1 with
      | .ok value => pure (.ok value, ended.2)
      | .error error => (handler error).start ended.2 := by
  refine congrArg (procedure.start record >>= ·) (funext fun ended => ?_)
  rcases ended with ⟨_ | _, _⟩ <;> rfl

/-- Naming the error of a reply that reports none changes nothing. -/
theorem mapError_ok {ε ε' : Type} (f : ε → ε') (value : α) :
    (Except.ok value : Except ε α).mapError f = .ok value := rfl

theorem mapError_error {ε ε' : Type} (f : ε → ε') (error : ε) :
    (Except.error error : Except ε α).mapError f = .error (f error) := rfl

/-- Procedures in sequence, before anything is run. -/
theorem Procedure.run_bind (procedure : Procedure α) (next : α → Procedure β) :
    (procedure >>= next).run = procedure.run >>= fun outcome =>
      match outcome with
      | .ok value => (next value).run
      | .error error => pure (.error error) := by
  refine congrArg (procedure.run >>= ·) (funext fun outcome => ?_)
  cases outcome <;> rfl

/-- Owning a record makes no difference to procedures in sequence. -/
theorem Procedure.liftM_bind (procedure : Procedure α) (next : α → Procedure β) :
    (liftM (procedure >>= next) : Fallible ρ β)
      = liftM procedure >>= fun value => liftM (next value) := by
  refine ExceptT.ext (StateT.ext fun record => ?_)
  change (liftM (procedure >>= next) : Fallible ρ β).start record
    = (liftM procedure >>= fun value => liftM (next value) : Fallible ρ β).start record
  rw [Fallible.start_bind, Fallible.start_procedure, Fallible.start_procedure, run_bind,
    bind_assoc, bind_assoc]
  refine congrArg (procedure.run >>= ·) (funext fun outcome => ?_)
  cases outcome <;> rfl

namespace Hardware

variable (hw : Hardware σ) (record : ρ) (s : σ)

/-- Executes a program that owns a record and may fail. -/
def execute (procedure : Fallible ρ α) : Execution ρ σ α :=
  let ended := hw.run (procedure.start record) s
  ⟨ended.1.1, ended.1.2, ended.2⟩

/-- How a program is run, from how it is executed. -/
theorem run_start_of_execute {record record' : ρ} {s s' : σ} {procedure : Fallible ρ α}
    {outcome : Except Error α} (h : hw.execute record s procedure = ⟨outcome, record', s'⟩) :
    hw.run (procedure.start record) s = ((outcome, record'), s') := by
  obtain ⟨rfl, rfl, rfl⟩ := Execution.mk.inj h
  rfl

/-! ## Executing the parts of a program -/

/-- **Executing commutes with sequencing.** -/
theorem execute_bind (procedure : Fallible ρ α) (next : α → Fallible ρ β) :
    hw.execute record s (procedure >>= next)
      = (hw.execute record s procedure).andThen fun value record s =>
          hw.execute record s (next value) := by
  simp only [execute, Fallible.start_bind, run_bind, Execution.andThen]
  rcases hw.run (procedure.start record) s with ⟨⟨_ | _, _⟩, _⟩ <;> rfl

theorem execute_get : hw.execute record s (get : Fallible ρ ρ) = ⟨.ok record, record, s⟩ := rfl

theorem execute_modify (f : ρ → ρ) :
    hw.execute record s (modify f : Fallible ρ PUnit) = ⟨.ok ⟨⟩, f record, s⟩ := rfl

/-- A plain program cannot fail and leaves the record alone. -/
theorem execute_program (program : Program α) :
    hw.execute record s (liftM program : Fallible ρ α)
      = ⟨.ok (hw.run program s).1, record, (hw.run program s).2⟩ := by
  simp only [execute, Fallible.start_program, run_bind]
  rfl

/-- A procedure leaves the record alone. -/
theorem execute_procedure (procedure : Procedure α) :
    hw.execute record s (liftM procedure : Fallible ρ α)
      = ⟨(hw.run procedure.run s).1, record, (hw.run procedure.run s).2⟩ := by
  simp only [execute, Fallible.start_procedure, run_bind]
  rfl

/-- A program that only owns the record cannot fail. -/
theorem execute_owned (program : Owned ρ α) :
    hw.execute record s (liftM program : Fallible ρ α)
      = ⟨.ok (hw.run (program.run record) s).1.1, (hw.run (program.run record) s).1.2,
          (hw.run (program.run record) s).2⟩ := by
  simp only [execute, Fallible.start_owned, run_bind]
  rfl

/-- An error is handled from where it left the record and the processor. -/
theorem execute_tryCatch (procedure : Fallible ρ α) (handler : Error → Fallible ρ α) :
    hw.execute record s (tryCatch procedure handler)
      = match (hw.execute record s procedure).outcome with
        | .ok _ => hw.execute record s procedure
        | .error error =>
            hw.execute (hw.execute record s procedure).record
              (hw.execute record s procedure).state (handler error) := by
  simp only [execute, Fallible.start_tryCatch, run_bind]
  rcases hw.run (procedure.start record) s with ⟨⟨_ | _, _⟩, _⟩ <;> rfl

/-- Procedures in sequence: an error ends everything behind it. -/
theorem run_procedure_bind (procedure : Procedure α) (next : α → Procedure β) :
    hw.run (procedure >>= next).run s
      = match hw.run procedure.run s with
        | (.ok value, s) => hw.run (next value).run s
        | (.error error, s) => (.error error, s) := by
  rw [Procedure.run_bind, run_bind]
  rcases hw.run procedure.run s with ⟨_ | _, _⟩ <;> rfl

/-- Procedures in sequence, where the first one returns. -/
theorem run_procedure_ok {procedure : Procedure α} {next : α → Procedure β} {s s' : σ} {value : α}
    (h : hw.run procedure.run s = (.ok value, s')) :
    hw.run (procedure >>= next).run s = hw.run (next value).run s' := by
  rw [run_procedure_bind, h]

/-- Procedures in sequence, where the first one fails. -/
theorem run_procedure_error {procedure : Procedure α} {next : α → Procedure β} {s s' : σ}
    {error : Error} (h : hw.run procedure.run s = (.error error, s')) :
    hw.run (procedure >>= next).run s = (.error error, s') := by
  rw [run_procedure_bind, h]

/-! ## Single steps -/

theorem run_procedure_request (op : Operation) (next : op.Reply → Procedure β) :
    hw.run (liftM (Program.request op) >>= next).run s
      = hw.run (next (hw.answer op s).1).run (hw.answer op s).2 := rfl

theorem run_procedure_report (diagnostic : Diagnostic) (next : Unit → Procedure β) :
    hw.run (liftM (Program.report diagnostic) >>= next).run s
      = hw.run (next ()).run (hw.answer (.report diagnostic) s).2 := rfl

/-- A plain program within a procedure. -/
theorem run_procedure_program (program : Program α) (next : α → Procedure β) :
    hw.run (liftM program >>= next).run s
      = hw.run (next (hw.run program s).1).run (hw.run program s).2 := by
  have h : hw.run (liftM program : Procedure α).run s
      = (.ok (hw.run program s).1, (hw.run program s).2) := run_bind hw _ _ _
  rw [run_procedure_bind, h]

theorem run_owned_request (op : Operation) (next : op.Reply → Owned ρ β) :
    hw.run ((liftM (Program.request op) >>= next : Owned ρ β).run record) s
      = hw.run ((next (hw.answer op s).1).run record) (hw.answer op s).2 := rfl

theorem run_owned_report (diagnostic : Diagnostic) (next : Unit → Owned ρ β) :
    hw.run ((liftM (Program.report diagnostic) >>= next : Owned ρ β).run record) s
      = hw.run ((next ()).run record) (hw.answer (.report diagnostic) s).2 := rfl

theorem run_owned_get (next : ρ → Owned ρ β) :
    hw.run ((get >>= next : Owned ρ β).run record) s = hw.run ((next record).run record) s := rfl

theorem run_owned_set (record' : ρ) (next : Unit → Owned ρ β) :
    hw.run ((set record' >>= next : Owned ρ β).run record) s
      = hw.run ((next ()).run record') s := rfl

/-- A plain program within one that owns a record. -/
theorem run_owned_program (program : Program α) (next : α → Owned ρ β) :
    hw.run ((liftM program >>= next : Owned ρ β).run record) s
      = hw.run ((next (hw.run program s).1).run record) (hw.run program s).2 := by
  have h : (liftM program >>= next : Owned ρ β).run record
      = (program >>= fun value => pure (value, record)) >>= fun ended =>
          (next ended.1).run ended.2 := rfl
  rw [h, bind_assoc, run_bind]
  rfl

theorem run_owned_modify (f : ρ → ρ) (next : Unit → Owned ρ β) :
    hw.run ((modify f >>= next : Owned ρ β).run record) s
      = hw.run ((next ()).run (f record)) s := rfl

end Hardware

end VtxMonitor
