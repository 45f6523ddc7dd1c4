import VtxMonitor.Proofs.Processor.VmcsHolder

/-!
# Proofs/Processor/VmcsFrame — a processor with a current VMCS, and all the rest of it

A `VmcsFrame` tells the fields of the VMCS from the rest of the processor: reading a field returns
it, writing one keeps the rest, and what is asked besides is answered by the rest alone.  The
simulated processor and the machine are split in this way.  The states with one rest are a
`VmcsHolder` again (`VmcsFrame.pinned`), so that `VmcsFrame.Leads` is the same judgement with the
rest kept; here **a program may also look at the processor**, which the rest answers.
-/

namespace VtxMonitor

open Vmcs (Field)

variable {σ α : Type}

/-! ## Processors with a current VMCS, and their rest -/

/-- A processor with a current VMCS of which the rest is known as well. -/
structure VmcsFrame (hw : Hardware σ) extends VmcsHolder hw where
  /-- Everything besides the fields of the VMCS. -/
  rest : σ → σ
  found : ∀ field s, Holds s → (hw.answer (.vmread field) s).1 = .ok (word s field)
  /-- The answers of the processor do not depend on the fields. -/
  inspected : ∀ op s, op.Inspects → Holds s → (hw.answer op s).1 = (hw.answer op (rest s)).1
  passed : ∀ op s, op.Passive → Holds s →
    Holds (hw.answer op s).2 ∧ word (hw.answer op s).2 = word s ∧ rest (hw.answer op s).2 = rest s
  spared : ∀ field content s, Holds s → rest (hw.answer (.vmwrite field content) s).2 = rest s

/-- A simulated processor, if a VMCS is current. -/
def SimulatedProcessor.vmcsFrame (cpu : SimulatedProcessor) : VmcsFrame hardware where
  toVmcsHolder := cpu.vmcsHolder
  rest s := { s with fields := fun _ => none }
  found field s holds := s.vmread_of_current holds.1 field
  inspected op s inspects _ := by
    cases op with
    | readCr register => cases register <;> rfl
    | _ => first | rfl | exact inspects.elim
  passed op s passive holds := by
    cases op with
    | _ => first | exact ⟨holds, rfl, rfl⟩ | exact passive.elim
  spared field content s holds := by
    have answered := answer_write holds.1 field (content.resolve SimulatedProcessor.exitEntryPoint)
    have stored : hardware.answer (.vmwrite field content) s = _ := answered
    rw [stored]
    rfl

/-- A machine.  Its rest does not include the record of executed instructions. -/
def Machine.vmcsFrame (m : Machine) : VmcsFrame hardware where
  toVmcsHolder := m.vmcsHolder
  rest s := { s with fields := [], executed := [] }
  found _ _ _ := rfl
  inspected op s inspects _ := by
    cases op with
    | readCr register => cases register <;> rfl
    | _ => first | rfl | exact inspects.elim
  passed op s passive holds := by
    have kept : ∀ instructions, (s.execute instructions).readCr = m.readCr := fun instructions =>
      (s.readCr_execute instructions).trans holds
    cases op with
    | _ => first | exact ⟨holds, rfl, rfl⟩ | exact ⟨kept _, rfl, rfl⟩ | exact passive.elim
  spared _ _ _ _ := rfl

namespace VmcsFrame

variable {hw : Hardware σ} (frame : VmcsFrame hw)

/-- The states with a given rest are a processor with a current VMCS of their own. -/
def pinned (rest : σ) : VmcsHolder hw where
  Holds s := frame.Holds s ∧ frame.rest s = rest
  word := frame.word
  cr := frame.cr
  exitEntry := frame.exitEntry
  interruptEntry := frame.interruptEntry
  readCr s register holds := frame.readCr s register holds.1
  exitEntryPoint s holds := frame.exitEntryPoint s holds.1
  interruptEntryPoints s holds := frame.interruptEntryPoints s holds.1
  asked op s asks holds := by
    obtain ⟨stays, word, kept⟩ := frame.passed op s asks.passive holds.1
    exact ⟨⟨stays, kept.trans holds.2⟩, word⟩
  written field content s holds := by
    obtain ⟨ok, stays, stored⟩ := frame.written field content s holds.1
    exact ⟨ok, ⟨stays, (frame.spared field content s holds.1).trans holds.2⟩, stored⟩

/-- The states with given fields and a given rest. -/
abbrev Shows (rest : σ) (words : Field → Word) (s : σ) : Prop := (frame.pinned rest).Shows words s

/-- **From given fields a program ends with a value and leaves given fields**, and the rest of the
processor stays as it is. -/
abbrev Leads (rest : σ) (words : Field → Word) (program : Program α) (value : α)
    (words' : Field → Word) : Prop :=
  (frame.pinned rest).Leads words program value words'

/-- Every state with a current VMCS shows its own fields and its own rest. -/
theorem shows_self {s : σ} (holds : frame.Holds s) : frame.Shows (frame.rest s) (frame.word s) s :=
  ⟨⟨holds, rfl⟩, rfl⟩

end VmcsFrame

namespace VmcsHolder

variable {hw : Hardware σ} {frame : VmcsFrame hw} {base s : σ} {words words' : Field → Word}

theorem Shows.current (shows : (frame.pinned base).Shows words s) : frame.Holds s := shows.holds.1

theorem Shows.rest (shows : (frame.pinned base).Shows words s) : frame.rest s = base :=
  shows.holds.2

namespace Leads

/-- The rest of the processor answers a request that only looks at it. -/
theorem inspect (op : Operation) (inspects : op.Inspects) :
    frame.Leads base words (Program.request op) (hw.answer op base).1 words := by
  intro s shows
  obtain ⟨holds, word, kept⟩ := frame.passed op s inspects.passive shows.holds.1
  have answered := frame.inspected op s inspects shows.holds.1
  rw [shows.holds.2] at answered
  exact ⟨answered, ⟨holds, kept.trans shows.holds.2⟩, word.trans shows.word⟩

/-- **What a program finds that only looks at the processor does not depend on the fields**, and it
leaves them as they are. -/
theorem inspecting {program : Program α} (only : program.Only Operation.Inspects)
    (holds : frame.Holds s) :
    frame.Leads (frame.rest s) words program (hw.run program s).1 words := by
  induction program generalizing s with
  | done value => exact .pure value
  | perform op next ih =>
      obtain ⟨stays, -, kept⟩ := frame.passed op s only.1.passive holds
      have asked : frame.Leads (frame.rest s) words (Program.request op) (hw.answer op s).1 words :=
        frame.inspected op s only.1 holds ▸ inspect op only.1
      exact asked.bind (kept ▸ ih _ (only.2 _) stays)

theorem read (field : Field) :
    frame.Leads base words (Vmcs.read field).run (.ok (words field)) words := by
  intro s shows
  have ran : hw.run (Vmcs.read field).run s
      = ((hw.answer (.vmread field) s).1.mapError (.vmcsAccess field),
        (hw.answer (.vmread field) s).2) := rfl
  have word : frame.word s = words := shows.word
  obtain ⟨holds, same, kept⟩ := frame.passed (.vmread field) s trivial shows.holds.1
  rw [ran, frame.found field s shows.holds.1, word]
  exact ⟨rfl, ⟨holds, kept.trans shows.holds.2⟩, same.trans word⟩

/-- A request that only looks at the processor, and what is done with the reply. -/
theorem ask_bind {op : Operation} {next : op.Reply → Procedure α} {ended : Except Error α}
    (holds : frame.Holds s) (inspects : op.Inspects)
    (after : frame.Leads (frame.rest s) words (next (hw.answer op s).1).run ended words') :
    frame.Leads (frame.rest s) words (liftM (Program.request op) >>= next : Procedure α).run ended
      words' := by
  have asks : (Program.request op).Only Operation.Inspects := ⟨inspects, fun _ => trivial⟩
  exact (inspecting asks holds).procedure_program.procedure_bind after

end Leads

end VmcsHolder

end VtxMonitor
