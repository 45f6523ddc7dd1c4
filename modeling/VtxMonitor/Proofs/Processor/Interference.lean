import VtxMonitor.Proofs.Processor.Steps

/-!
# Proofs/Processor/Interference — programs that others run in between

`Program.interruptedAt` lets another program run to completion behind the first requests of a
program.  `Program.Guarantees` says that every request of a program changes the state only within a
relation, whatever others that keep to the relation do between the requests.  Hence **what holds
behind an interruption and is stable under the relation holds at the end**
(`Guarantees.run_interruptedAt`).  `Program.Concludes` says what the last request of a program makes
of the state, and **that holds at the end whatever an interruption before it established**
(`Concludes.run_interruptedAt`).
-/

namespace VtxMonitor

variable {ρ σ α β : Type}

namespace Program

/-- A program that an interruption breaks into: behind the first `point` requests the interruption
runs to completion, then the program goes on.  A point behind the last request lies at the end. -/
def interruptedAt (program : Program α) (interruption : Program β) (point : Nat) : Program α :=
  match point, program with
  | point + 1, .perform op next =>
      .perform op fun reply => (next reply).interruptedAt interruption point
  | _, program => interruption >>= fun _ => program

/-- Every request of a program changes the state only within a relation.  Between two requests the
state may change: all that is known of it is that it is related to `base`, so the replies that a
program goes on from may be out of date. -/
def Guarantees (hw : Hardware σ) (R : σ → σ → Prop) (base : σ) : Program α → Prop
  | .done _ => True
  | .perform op next => ∀ s, R base s →
      R s (hw.answer op s).2 ∧ (next (hw.answer op s).1).Guarantees hw R base

/-- A program with a last request, behind which `P` holds, whatever others that keep to the relation
do between the requests. -/
def Concludes (hw : Hardware σ) (R : σ → σ → Prop) (base : σ) (P : σ → Prop) : Program α → Prop
  | .done _ => False
  | .perform op next => ∀ s, R base s →
      ((∃ value, next (hw.answer op s).1 = .done value) ∧ P (hw.answer op s).2) ∨
      (next (hw.answer op s).1).Concludes hw R base P

variable {hw : Hardware σ} {R : σ → σ → Prop} {base : σ} {P : σ → Prop}

/-! ## Composing guarantees -/

theorem Guarantees.bind {program : Program α} {next : α → Program β}
    (first : program.Guarantees hw R base) (rest : ∀ value, (next value).Guarantees hw R base) :
    (program >>= next).Guarantees hw R base := by
  induction program with
  | done value => exact rest value
  | perform op after ih => exact fun s related => ⟨(first s related).1, ih _ (first s related).2⟩

theorem Guarantees.procedure_bind {procedure : Procedure α} {next : α → Procedure β}
    (first : procedure.run.Guarantees hw R base)
    (rest : ∀ value, (next value).run.Guarantees hw R base) :
    (procedure >>= next).run.Guarantees hw R base :=
  first.bind fun
    | .ok value => rest value
    | .error _ => trivial

theorem Guarantees.start_bind {procedure : Fallible ρ α} {next : α → Fallible ρ β} {record : ρ}
    (first : (procedure.start record).Guarantees hw R base)
    (rest : ∀ value record, ((next value).start record).Guarantees hw R base) :
    ((procedure >>= next).start record).Guarantees hw R base := by
  rw [Fallible.start_bind]
  refine first.bind fun ended => ?_
  rcases ended with ⟨_ | value, record⟩
  · trivial
  · exact rest value record

theorem Guarantees.start_procedure {procedure : Procedure α}
    (guarantees : procedure.run.Guarantees hw R base) (record : ρ) :
    ((liftM procedure : Fallible ρ α).start record).Guarantees hw R base := by
  rw [Fallible.start_procedure]
  exact guarantees.bind fun _ => trivial

/-- What a program concludes with is not changed by a rest without requests. -/
theorem Concludes.bind_done {program : Program α} {next : α → Program β}
    (concludes : program.Concludes hw R base P)
    (ends : ∀ value, ∃ result, next value = .done result) :
    (program >>= next).Concludes hw R base P := by
  induction program with
  | done value => exact concludes.elim
  | perform op after ih =>
      intro s related
      refine (concludes s related).imp ?_ (ih _)
      rintro ⟨⟨value, last⟩, holds⟩
      obtain ⟨result, ended⟩ := ends value
      exact ⟨⟨result, (congrArg (Program.bind · next) last).trans ended⟩, holds⟩

/-! ## What they say about runs -/

/-- An interruption before the first request. -/
theorem run_interruptedAt_zero (interruption : Program β) (program : Program α) (s : σ) :
    hw.run (program.interruptedAt interruption 0) s = hw.run program (hw.run interruption s).2 := by
  have now : program.interruptedAt interruption 0 = interruption >>= fun _ => program := by
    cases program <;> rfl
  rw [now, Hardware.run_bind]

section Guaranteeing

variable (refl : ∀ s, R s s) (trans : ∀ {s₁ s₂ s₃}, R s₁ s₂ → R s₂ s₃ → R s₁ s₃)

include refl trans

/-- A whole run stays within the relation. -/
theorem Guarantees.run {program : Program α} (guarantees : program.Guarantees hw R base) {s : σ}
    (related : R base s) : R s (hw.run program s).2 := by
  induction program generalizing s with
  | done value => exact refl s
  | perform op next ih =>
      obtain ⟨step, rest⟩ := guarantees s related
      exact trans step (ih _ rest (trans related step))

/-- **What an interruption establishes holds at the end** if it is stable under the relation that
the interrupted program keeps to, wherever the interruption breaks in. -/
theorem Guarantees.run_interruptedAt {program : Program α}
    (guarantees : program.Guarantees hw R base) {interruption : Program β}
    (stable : ∀ {s s'}, R s s' → P s → P s')
    (establishes : ∀ s, R base s →
      R s (hw.run interruption s).2 ∧ P (hw.run interruption s).2)
    (point : Nat) {s : σ} (related : R base s) :
    P (hw.run (program.interruptedAt interruption point) s).2 := by
  have now : ∀ (program : Program α) {s : σ}, program.Guarantees hw R base → R base s →
      P (hw.run (program.interruptedAt interruption 0) s).2 := by
    intro program s guarantees related
    obtain ⟨step, holds⟩ := establishes s related
    rw [run_interruptedAt_zero]
    exact stable (guarantees.run refl trans (trans related step)) holds
  induction program generalizing point s with
  | done value => cases point <;> exact now (.done value) guarantees related
  | perform op next ih =>
      cases point with
      | zero => exact now _ guarantees related
      | succ point =>
          obtain ⟨step, rest⟩ := guarantees s related
          exact ih _ rest point (trans related step)

end Guaranteeing

section Concluding

variable (trans : ∀ {s₁ s₂ s₃}, R s₁ s₂ → R s₂ s₃ → R s₁ s₃)

include trans

theorem Concludes.run {program : Program α} (concludes : program.Concludes hw R base P)
    (guarantees : program.Guarantees hw R base) {s : σ} (related : R base s) :
    P (hw.run program s).2 := by
  induction program generalizing s with
  | done value => exact concludes.elim
  | perform op next ih =>
      obtain ⟨step, rest⟩ := guarantees s related
      rw [Hardware.run_perform]
      rcases concludes s related with ⟨⟨value, last⟩, holds⟩ | concludes
      · rw [last]
        exact holds
      · exact ih _ concludes rest (trans related step)

/-- **What the last request of a program establishes holds at the end** if an interruption that
keeps to the relation breaks in before it. -/
theorem Concludes.run_interruptedAt {program : Program α}
    (concludes : program.Concludes hw R base P) (guarantees : program.Guarantees hw R base)
    {interruption : Program β} (keeps : ∀ s, R base s → R s (hw.run interruption s).2)
    {point : Nat} {s : σ} (related : R base s)
    (running : point < (hw.steps program s).length) :
    P (hw.run (program.interruptedAt interruption point) s).2 := by
  induction program generalizing point s with
  | done value => exact concludes.elim
  | perform op next ih =>
      cases point with
      | zero =>
          rw [run_interruptedAt_zero]
          exact concludes.run (R := R) trans guarantees (trans related (keeps s related))
      | succ point =>
          obtain ⟨step, rest⟩ := guarantees s related
          have running' : point < (hw.steps (next (hw.answer op s).1) (hw.answer op s).2).length :=
            Nat.lt_of_succ_lt_succ running
          rcases concludes s related with ⟨⟨value, last⟩, -⟩ | concludes
          · rw [last] at running'
            exact absurd running' (Nat.not_lt_zero point)
          · exact ih _ concludes rest (trans related step) running'

end Concluding

end Program

end VtxMonitor
