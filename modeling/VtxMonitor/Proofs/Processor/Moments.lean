import VtxMonitor.Proofs.Processor.Steps

/-!
# Proofs/Processor/Moments — the record at the time of a request

A program that owns a record is a function of it, so what it means does not tell which of its
requests come before a change of the record.  Its text does: an `Outline` is that text, cut into
parts that cannot change the record and parts that may.  `Outline.moments` lists the requests of an
execution together with the record at that time, and **it lists the requests of the procedure that
the outline stands for** (`map_moments`).  `Outline.Sound` carries an invariant of record and
processor through an outline.
-/

namespace VtxMonitor

variable {ρ σ α β : Type}

/-- The text of a procedure that owns a record of type `ρ`. -/
inductive Outline (ρ : Type) : Type → Type 1 where
  /-- A part that leaves the record alone. -/
  | part {α : Type} (procedure : Procedure α) : Outline ρ α
  /-- A part that may change the record between its requests. -/
  | own {α : Type} (program : Owned ρ α) : Outline ρ α
  | bind {α β : Type} (first : Outline ρ α) (next : α → Outline ρ β) : Outline ρ β
  | handle {α : Type} (first : Outline ρ α) (handler : Error → Outline ρ α) : Outline ρ α

namespace Outline

instance : Monad (Outline ρ) where
  pure value := .part (pure value)
  bind := .bind

instance : MonadLift Procedure (Outline ρ) := ⟨.part⟩

/-- A plain program is a part that leaves the record alone, so this comes last. -/
instance (priority := low) : MonadLift (Owned ρ) (Outline ρ) := ⟨.own⟩

instance : MonadStateOf ρ (Outline ρ) where
  get := .own get
  set record := .own (set record)
  modifyGet f := .own (modifyGet f)

instance : MonadExceptOf Error (Outline ρ) where
  throw error := .part (throw error)
  tryCatch := .handle

/-- The procedure that an outline stands for. -/
def procedure {α : Type} : Outline ρ α → Fallible ρ α
  | .part procedure => liftM procedure
  | .own program => liftM program
  | .bind first next => first.procedure >>= fun value => (next value).procedure
  | .handle first handler => tryCatch first.procedure fun error => (handler error).procedure

end Outline

/-- A request, with the record and the state it is made in.  Within a part that may change the
record there is no saying what it is. -/
structure Moment (ρ σ : Type) where
  request : Operation
  record : Option ρ
  state : σ

namespace Outline

/-- The requests of an execution. -/
def moments (hw : Hardware σ) {α : Type} : Outline ρ α → ρ → σ → List (Moment ρ σ)
  | .part procedure, record, s =>
      (hw.steps procedure.run s).map fun step => ⟨step.1, some record, step.2⟩
  | .own program, record, s =>
      (hw.steps (program.run record) s).map fun step => ⟨step.1, none, step.2⟩
  | .bind first next, record, s =>
      first.moments hw record s ++
        match hw.execute record s first.procedure with
        | ⟨.ok value, record, s⟩ => (next value).moments hw record s
        | ⟨.error _, _, _⟩ => []
  | .handle first handler, record, s =>
      first.moments hw record s ++
        match hw.execute record s first.procedure with
        | ⟨.ok _, _, _⟩ => []
        | ⟨.error error, record, s⟩ => (handler error).moments hw record s

/-- **The moments of an outline are the requests of its procedure**, in order. -/
theorem map_moments (hw : Hardware σ) (outline : Outline ρ α) (record : ρ) (s : σ) :
    (outline.moments hw record s).map (fun moment => (moment.request, moment.state))
      = hw.stepsOf record s outline.procedure := by
  induction outline generalizing record s with
  | part procedure =>
      rw [Outline.procedure, Hardware.stepsOf_procedure, moments, List.map_map]
      exact List.map_id _
  | own program =>
      rw [Outline.procedure, Hardware.stepsOf_owned, moments, List.map_map]
      exact List.map_id _
  | bind first next ih rest =>
      rw [Outline.procedure, Hardware.stepsOf_bind, moments, List.map_append, ih]
      rcases hw.execute record s first.procedure with ⟨error | value, record', s'⟩
      · rfl
      · exact congrArg (_ ++ ·) (rest value record' s')
  | handle first handler ih rest =>
      rw [Outline.procedure, Hardware.stepsOf_tryCatch, moments, List.map_append, ih]
      rcases hw.execute record s first.procedure with ⟨error | value, record', s'⟩
      · exact congrArg (_ ++ ·) (rest error record' s')
      · rfl

/-! ## What holds at every moment -/

section

variable {hw : Hardware σ} {Q : Moment ρ σ → Prop} {record record' : ρ} {s s' : σ}

/-- Every moment of an execution satisfies a predicate. -/
def Every (hw : Hardware σ) (Q : Moment ρ σ → Prop) (record : ρ) (s : σ)
    (outline : Outline ρ α) : Prop :=
  ∀ moment ∈ outline.moments hw record s, Q moment

theorem Every.part {procedure : Procedure α}
    (steps : ∀ step ∈ hw.steps procedure.run s, Q ⟨step.1, some record, step.2⟩) :
    (Outline.part procedure).Every hw Q record s :=
  List.forall_mem_map.2 steps

theorem Every.own {program : Owned ρ α}
    (steps : ∀ step ∈ hw.steps (program.run record) s, Q ⟨step.1, none, step.2⟩) :
    (Outline.own program).Every hw Q record s :=
  List.forall_mem_map.2 steps

theorem Every.bind {first : Outline ρ α} {next : α → Outline ρ β}
    (holds : first.Every hw Q record s)
    (rest : ∀ value record' s', hw.execute record s first.procedure = ⟨.ok value, record', s'⟩ →
      (next value).Every hw Q record' s') :
    (first.bind next).Every hw Q record s := by
  rw [Every, moments]
  refine List.forall_mem_append.2 ⟨holds, ?_⟩
  rcases ended : hw.execute record s first.procedure with ⟨error | value, record', s'⟩
  · exact nofun
  · exact rest value record' s' ended

/-- A sequence whose first part is known to return. -/
theorem Every.bind_ok {first : Outline ρ α} {next : α → Outline ρ β} {value : α}
    (ended : hw.execute record s first.procedure = ⟨.ok value, record', s'⟩)
    (holds : first.Every hw Q record s) (rest : (next value).Every hw Q record' s') :
    (first.bind next).Every hw Q record s := by
  refine holds.bind fun value' record'' s'' ended' => ?_
  obtain ⟨value_eq, rfl, rfl⟩ := Execution.mk.inj (ended.symm.trans ended')
  obtain rfl := Except.ok.inj value_eq
  exact rest

/-- A sequence whose first part is known to fail. -/
theorem Every.bind_error {first : Outline ρ α} {next : α → Outline ρ β} {error : Error}
    (ended : hw.execute record s first.procedure = ⟨.error error, record', s'⟩)
    (holds : first.Every hw Q record s) : (first.bind next).Every hw Q record s :=
  holds.bind fun _ _ _ ended' => nomatch ended.symm.trans ended'

theorem Every.handle {first : Outline ρ α} {handler : Error → Outline ρ α}
    (holds : first.Every hw Q record s)
    (rest : ∀ error record' s', hw.execute record s first.procedure = ⟨.error error, record', s'⟩ →
      (handler error).Every hw Q record' s') :
    (first.handle handler).Every hw Q record s := by
  rw [Every, moments]
  refine List.forall_mem_append.2 ⟨holds, ?_⟩
  rcases ended : hw.execute record s first.procedure with ⟨error | value, record', s'⟩
  · exact rest error record' s' ended
  · exact nofun

end

/-! ## Invariants of record and processor -/

/-- From where `I` holds, every moment satisfies `Q` and `I` holds again at the end. -/
def Sound (hw : Hardware σ) (I : ρ → σ → Prop) (Q : Moment ρ σ → Prop) (outline : Outline ρ α) :
    Prop :=
  ∀ record s, I record s → outline.Every hw Q record s ∧
    I (hw.execute record s outline.procedure).record (hw.execute record s outline.procedure).state

section

variable {hw : Hardware σ} {I : ρ → σ → Prop} {Q : Moment ρ σ → Prop}

theorem Sound.bind {first : Outline ρ α} {next : α → Outline ρ β} (sound : first.Sound hw I Q)
    (rest : ∀ value, (next value).Sound hw I Q) : (first.bind next).Sound hw I Q := by
  intro record s before
  obtain ⟨holds, between⟩ := sound record s before
  refine ⟨holds.bind fun value record' s' ended => ?_, ?_⟩
  · rw [ended] at between
    exact (rest value record' s' between).1
  · rw [Outline.procedure, Hardware.execute_bind]
    revert between
    rcases hw.execute record s first.procedure with ⟨error | value, record', s'⟩
    · exact id
    · exact fun between => (rest value record' s' between).2

theorem Sound.handle {first : Outline ρ α} {handler : Error → Outline ρ α}
    (sound : first.Sound hw I Q) (rest : ∀ error, (handler error).Sound hw I Q) :
    (first.handle handler).Sound hw I Q := by
  intro record s before
  obtain ⟨holds, between⟩ := sound record s before
  refine ⟨holds.handle fun error record' s' ended => ?_, ?_⟩
  · rw [ended] at between
    exact (rest error record' s' between).1
  · rw [Outline.procedure, Hardware.execute_tryCatch]
    revert between
    rcases hw.execute record s first.procedure with ⟨error | value, record', s'⟩
    · exact fun between => (rest error record' s' between).2
    · exact id

end

end Outline

end VtxMonitor
