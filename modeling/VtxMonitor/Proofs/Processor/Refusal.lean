import VtxMonitor.Proofs.Processor.RegisterFile

/-!
# Proofs/Processor/Refusal — what ends behind a request that the processor refuses

`Fallible.Stops` says of a program that it does not go on behind one of its requests: it ends with
an error, in a record and a state that satisfy an assertion.  **Only the part that makes the request
has to be looked into**: the parts before it (`Stops.behind`) and behind it (`Stops.bind`) must not
make the same request, and a handler runs from where the refusal left the record and the processor
(`Stops.handled`).
-/

namespace VtxMonitor

variable {ρ σ α β : Type} {hw : Hardware σ}

/-- The first request of a program that does not repeat it is made in the state of the start. -/
theorem Hardware.start_of_mem_steps {op : Operation} {next : op.Reply → Program α} {start s : σ}
    (spares : ∀ reply, (next reply).Only (· ≠ op))
    (mem : (op, s) ∈ hw.steps (.perform op next) start) : s = start := by
  rcases List.mem_cons.1 mem with first | mem
  · exact (Prod.ext_iff.1 first).2
  · exact absurd rfl ((spares _).of_mem_steps mem)

/-- **If a program makes a request in a given state**, it ends with an error, and error, record and
processor satisfy an assertion. -/
def Fallible.Stops (hw : Hardware σ) (before : ρ → σ → Prop) (procedure : Fallible ρ α)
    (step : Operation × σ) (ended : Error → ρ → σ → Prop) : Prop :=
  ∀ record start, before record start → step ∈ hw.stepsOf record start procedure →
    ∃ error record' s, hw.execute record start procedure = ⟨.error error, record', s⟩ ∧
      ended error record' s

namespace Fallible.Stops

variable {before : ρ → σ → Prop} {middle : α → ρ → σ → Prop} {step : Operation × σ}
  {ended : Error → ρ → σ → Prop}

/-- **What follows is not reached**, if the first part makes the request. -/
theorem bind {procedure : Fallible ρ α} {next : α → Fallible ρ β}
    (first : Stops hw before procedure step ended)
    (spares : ∀ value record, ((next value).start record).Only (· ≠ step.1)) :
    Stops hw before (procedure >>= next) step ended := by
  intro record start holds mem
  rw [Hardware.stepsOf_bind] at mem
  rcases List.mem_append.1 mem with mem | mem
  · obtain ⟨error, record', s, execution, after⟩ := first record start holds mem
    exact ⟨error, record', s, by rw [Hardware.execute_bind, execution, Execution.andThen_error],
      after⟩
  · split at mem
    · exact absurd rfl ((spares _ _).of_mem_steps mem)
    · exact absurd mem List.not_mem_nil

/-- A part that does not make the request and returns, before the part that makes it. -/
theorem behind {procedure : Fallible ρ α} {next : α → Fallible ρ β}
    (spares : ∀ record, (procedure.start record).Only (· ≠ step.1))
    (ensures : Ensures hw before procedure middle)
    (rest : ∀ value, Stops hw (middle value) (next value) step ended) :
    Stops hw before (procedure >>= next) step ended := by
  intro record start holds mem
  have between := ensures record start holds
  rw [Hardware.stepsOf_bind] at mem
  rcases List.mem_append.1 mem with mem | mem
  · exact absurd rfl ((spares record).of_mem_steps mem)
  rw [Hardware.execute_bind]
  generalize hw.execute record start procedure = first at between mem ⊢
  obtain ⟨error | value, record', s⟩ := first
  · exact absurd mem List.not_mem_nil
  · exact rest value record' s (between value rfl) mem

/-- **A handler runs from where the refusal left the record and the processor**, and fails in its
turn. -/
theorem handled {procedure : Fallible ρ α} {handler : Error → Fallible ρ α}
    {after : Error → ρ → σ → Prop} (first : Stops hw before procedure step ended)
    (spares : ∀ error record, ((handler error).start record).Only (· ≠ step.1))
    (handles : ∀ error record s, ended error record s → ∃ error' record' s',
      hw.execute record s (handler error) = ⟨.error error', record', s'⟩ ∧
        after error' record' s') :
    Stops hw before (tryCatch procedure handler) step after := by
  intro record start holds mem
  rw [Hardware.stepsOf_tryCatch] at mem
  rcases List.mem_append.1 mem with mem | mem
  · obtain ⟨error, record', s, execution, left⟩ := first record start holds mem
    rw [Hardware.execute_tryCatch, execution]
    exact handles error record' s left
  · split at mem
    · exact absurd mem List.not_mem_nil
    · exact absurd rfl ((spares _ _).of_mem_steps mem)

end Fallible.Stops

end VtxMonitor
