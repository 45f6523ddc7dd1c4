import VtxMonitor.Machine.Basic
import VtxMonitor.Proofs.Processor.Execution
import VtxMonitor.Proofs.Simulator.VmcsAccess
import VtxMonitor.Proofs.Vmcs.Footprint

/-!
# Proofs/Processor/VmcsHolder — what any processor with a current VMCS does

A `VmcsHolder` is a processor with a current VMCS, known only by its control registers and entry
points, which stay the same while it is asked for them, and by its fields, of which writing one
stores it.  The simulated processor and the machine are such processors.  `VmcsHolder.Leads` says
how a program ends on them and what it makes of given fields, and **it is closed under sequencing**,
so that the effect of a program on the fields is computed along its text.
-/

namespace VtxMonitor

open Vmcs (Field)

variable {σ ρ α β : Type}

/-! ## Processors with a current VMCS -/

/-- The requests that only ask for what the host state is made of, and reports. -/
def Operation.AsksHost : Operation → Prop
  | .readCr _ | .exitEntryPoint | .interruptEntryPoints | .report _ => True
  | _ => False

theorem Operation.AsksHost.passive {op : Operation} (asks : op.AsksHost) : op.Passive := by
  cases op with
  | _ => first | exact trivial | exact asks.elim

/-- A processor with a current VMCS.  `Holds` tells the states in which it is one. -/
structure VmcsHolder (hw : Hardware σ) where
  Holds : σ → Prop
  word : σ → Field → Word
  cr : ControlRegister → Word
  exitEntry : Word
  interruptEntry : BitVec 8 → Word
  readCr : ∀ s register, Holds s → (hw.answer (.readCr register) s).1 = cr register
  exitEntryPoint : ∀ s, Holds s → (hw.answer .exitEntryPoint s).1 = exitEntry
  interruptEntryPoints : ∀ s, Holds s → (hw.answer .interruptEntryPoints s).1 = interruptEntry
  /-- Asking changes nothing that matters. -/
  asked : ∀ op s, op.AsksHost → Holds s →
    Holds (hw.answer op s).2 ∧ word (hw.answer op s).2 = word s
  /-- Writing a field stores it and changes nothing else. -/
  written : ∀ field content s, Holds s →
    (hw.answer (.vmwrite field content) s).1 = .ok () ∧
      Holds (hw.answer (.vmwrite field content) s).2 ∧
      word (hw.answer (.vmwrite field content) s).2
        = update (word s) field (content.resolve exitEntry)

theorem SimulatedProcessor.readCr_setField (cpu : SimulatedProcessor) (field : Field)
    (value : Word) : (cpu.setField field value).readCr = cpu.readCr := by
  funext register
  cases register <;> rfl

/-- A simulated processor, if a VMCS is current. -/
def SimulatedProcessor.vmcsHolder (cpu : SimulatedProcessor) : VmcsHolder hardware where
  Holds s := s.currentVmcs.isSome ∧ s.readCr = cpu.readCr
  word := SimulatedProcessor.word
  cr := cpu.readCr
  exitEntry := SimulatedProcessor.exitEntryPoint
  interruptEntry := interruptEntryPoint
  readCr s register holds := congrFun holds.2 register
  exitEntryPoint _ _ := rfl
  interruptEntryPoints _ _ := rfl
  asked op s asks holds := by
    cases op with
    | readCr | exitEntryPoint | interruptEntryPoints | report => exact ⟨holds, rfl⟩
    | _ => exact asks.elim
  written field content s holds := by
    have answered := answer_write holds.1 field (content.resolve SimulatedProcessor.exitEntryPoint)
    have stored : hardware.answer (.vmwrite field content) s = _ := answered
    rw [stored]
    exact ⟨rfl, ⟨holds.1, (readCr_setField s _ _).trans holds.2⟩, s.word_setField field _⟩

namespace Machine

/-- Dropping what is stored in one field leaves the others. -/
theorem lookup_filter_of_ne (fields : List (Field × Vmcs.Content)) {field other : Field}
    (ne : other ≠ field) :
    (fields.filter fun entry => entry.1 ≠ field).lookup other = fields.lookup other := by
  induction fields with
  | nil => rfl
  | cons entry rest ih =>
      obtain ⟨key, value⟩ := entry
      by_cases same : key = field
      · subst same
        rw [List.filter_cons_of_neg (by simp), ih, List.lookup_cons, beq_eq_false_iff_ne.2 ne]
      · rw [List.filter_cons_of_pos (by simpa using same), List.lookup_cons, List.lookup_cons, ih]

/-- Storing a field replaces its content and leaves the others. -/
theorem field_setField (m : Machine) (field : Field) (content : Vmcs.Content) :
    (m.setField field content).field
      = update m.field field (content.resolve exitEntryPoint) := by
  funext other
  rw [Machine.field, setField]
  by_cases same : other = field
  · subst same
    rw [update_self, List.lookup_cons, beq_self_eq_true]
    rfl
  · rw [update_of_ne _ _ same, List.lookup_cons, beq_eq_false_iff_ne.2 same]
    exact congrArg (fun found => (found.map (·.resolve exitEntryPoint)).getD 0)
      (lookup_filter_of_ne m.fields same)

theorem readCr_execute (m : Machine) (instructions : List PrivilegedInstruction) :
    (m.execute instructions).readCr = m.readCr := by
  funext register
  cases register <;> rfl

theorem readCr_setField (m : Machine) (field : Field) (content : Vmcs.Content) :
    (m.setField field content).readCr = m.readCr := by
  funext register
  cases register <;> rfl

/-- A machine, in which a VMCS always counts as current. -/
def vmcsHolder (m : Machine) : VmcsHolder hardware where
  Holds s := s.readCr = m.readCr
  word := Machine.field
  cr := m.readCr
  exitEntry := exitEntryPoint
  interruptEntry := interruptEntryPoint
  readCr s register holds := congrFun holds register
  exitEntryPoint _ _ := rfl
  interruptEntryPoints _ _ := rfl
  asked op s asks holds := by
    cases op with
    | readCr => exact ⟨(readCr_execute s _).trans holds, rfl⟩
    | exitEntryPoint | interruptEntryPoints | report => exact ⟨holds, rfl⟩
    | _ => exact asks.elim
  written field content s holds :=
    ⟨rfl, (readCr_setField _ _ _).trans ((readCr_execute s _).trans holds),
      (s.execute [.vmwrite field content]).field_setField field content⟩

end Machine

/-! ## Programs that store fields -/

namespace VmcsHolder

variable {hw : Hardware σ} (holder : VmcsHolder hw)

/-- The states with given fields. -/
structure Shows (words : Field → Word) (s : σ) : Prop where
  holds : holder.Holds s
  word : holder.word s = words

/-- **From given fields a program ends with a value and leaves given fields.** -/
def Leads (words : Field → Word) (program : Program α) (value : α) (words' : Field → Word) :
    Prop :=
  ∀ s, holder.Shows words s →
    (hw.run program s).1 = value ∧ holder.Shows words' (hw.run program s).2

namespace Leads

variable {holder} {words words' words'' : Field → Word} {value : α} {result : β}

theorem pure (value : α) : holder.Leads words (.done value) value words :=
  fun _ shows => ⟨rfl, shows⟩

/-- **Programs in sequence lead where the second one leads from the fields that the first one
leaves.** -/
theorem bind {program : Program α} {next : α → Program β}
    (first : holder.Leads words program value words')
    (second : holder.Leads words' (next value) result words'') :
    holder.Leads words (program >>= next) result words'' := by
  intro s shows
  obtain ⟨ended, shows⟩ := first s shows
  rw [Hardware.run_bind, ended]
  exact second _ shows

/-- A request that only asks leaves the fields as they are. -/
theorem request {op : Operation} {reply : op.Reply} (asks : op.AsksHost)
    (answered : ∀ s, holder.Holds s → (hw.answer op s).1 = reply) :
    holder.Leads words (Program.request op) reply words := by
  intro s shows
  obtain ⟨holds, word⟩ := holder.asked op s asks shows.holds
  exact ⟨answered s shows.holds, holds, word.trans shows.word⟩

theorem report (diagnostic : Diagnostic) :
    holder.Leads words (Program.report diagnostic) () words :=
  request trivial fun _ _ => rfl

theorem reportAll (diagnostics : List Diagnostic) :
    holder.Leads words (Program.reportAll diagnostics) () words := by
  induction diagnostics with
  | nil => exact pure ()
  | cons diagnostic rest ih => exact (report diagnostic).bind ih

/-! ### Programs that own a record -/

theorem owned_bind {program : Owned ρ α} {next : α → Owned ρ β} {record record' : ρ}
    {ended : β × ρ} (first : holder.Leads words (program.run record) (value, record') words')
    (rest : holder.Leads words' ((next value).run record') ended words'') :
    holder.Leads words ((program >>= next).run record) ended words'' :=
  first.bind rest

theorem owned_get {record : ρ} {next : ρ → Owned ρ β} {ended : β × ρ}
    (rest : holder.Leads words ((next record).run record) ended words') :
    holder.Leads words ((get >>= next : Owned ρ β).run record) ended words' := rest

theorem owned_set {record record' : ρ} {next : Unit → Owned ρ β} {ended : β × ρ}
    (rest : holder.Leads words ((next ()).run record') ended words') :
    holder.Leads words ((set record' >>= next : Owned ρ β).run record) ended words' := rest

theorem owned_program {program : Program α} (leads : holder.Leads words program value words')
    (record : ρ) :
    holder.Leads words ((liftM program : Owned ρ α).run record) (value, record) words' :=
  leads.bind (pure _)

/-! ### Procedures -/

theorem procedure_bind {procedure : Procedure α} {next : α → Procedure β} {ended : Except Error β}
    (first : holder.Leads words procedure.run (.ok value) words')
    (second : holder.Leads words' (next value).run ended words'') :
    holder.Leads words (procedure >>= next).run ended words'' := by
  rw [Procedure.run_bind]
  exact first.bind second

/-- A procedure that fails ends a sequence. -/
theorem procedure_bind_error {procedure : Procedure α} {next : α → Procedure β} {error : Error}
    (first : holder.Leads words procedure.run (.error error) words') :
    holder.Leads words (procedure >>= next).run (.error error) words' := by
  rw [Procedure.run_bind]
  exact first.bind (pure (Except.error error))

theorem procedure_program {program : Program α}
    (leads : holder.Leads words program value words') :
    holder.Leads words (liftM program : Procedure α).run (.ok value) words' :=
  leads.bind (pure (Except.ok value))

/-! ### Procedures that own a record -/

theorem start_bind {procedure : Fallible ρ α} {next : α → Fallible ρ β} {record record' : ρ}
    {ended : Except Error β × ρ}
    (first : holder.Leads words (procedure.start record) (.ok value, record') words')
    (second : holder.Leads words' ((next value).start record') ended words'') :
    holder.Leads words ((procedure >>= next).start record) ended words'' := by
  rw [Fallible.start_bind]
  exact first.bind second

theorem start_procedure {procedure : Procedure α} {ended : Except Error α}
    (leads : holder.Leads words procedure.run ended words') (record : ρ) :
    holder.Leads words ((liftM procedure : Fallible ρ α).start record) (ended, record)
      words' := by
  rw [Fallible.start_procedure]
  exact leads.bind (pure (ended, record))

theorem start_owned {program : Owned ρ α} {record record' : ρ}
    (leads : holder.Leads words (program.run record) (value, record') words') :
    holder.Leads words ((liftM program : Fallible ρ α).start record) (.ok value, record')
      words' := by
  rw [Fallible.start_owned]
  exact leads.bind (pure (Except.ok value, record'))

theorem start_get {record : ρ} {next : ρ → Fallible ρ β} {ended : Except Error β × ρ}
    (rest : holder.Leads words ((next record).start record) ended words') :
    holder.Leads words ((get >>= next : Fallible ρ β).start record) ended words' := rest

theorem start_program {program : Program α} (leads : holder.Leads words program value words')
    (record : ρ) :
    holder.Leads words ((liftM program : Fallible ρ α).start record) (.ok value, record)
      words' := by
  rw [Fallible.start_program]
  exact (leads.bind (pure (Except.ok value))).bind (pure (Except.ok value, record))

/-- What executing a procedure comes to. -/
theorem execute {procedure : Fallible ρ α} {record record' : ρ} {ended : Except Error α} {s : σ}
    (leads : holder.Leads words (procedure.start record) (ended, record') words')
    (shows : holder.Shows words s) :
    let execution := hw.execute record s procedure
    execution.outcome = ended ∧ execution.record = record' ∧
      holder.Shows words' execution.state := by
  obtain ⟨value, shows⟩ := leads s shows
  obtain ⟨outcome, record⟩ := Prod.ext_iff.1 value
  exact ⟨outcome, record, shows⟩

/-! ### Writing fields -/

theorem vmwrite (field : Field) (content : Vmcs.Content) (cause : VmFail → Error) :
    holder.Leads words
      (Procedure.attempt cause (Program.request (.vmwrite field content))).run (.ok ())
      (update words field (content.resolve holder.exitEntry)) := by
  intro s shows
  obtain ⟨ok, holds, stored⟩ := holder.written field content s shows.holds
  have ran : hw.run (Procedure.attempt cause (Program.request (.vmwrite field content))).run s
      = ((hw.answer (.vmwrite field content) s).1.mapError cause,
        (hw.answer (.vmwrite field content) s).2) := rfl
  rw [ran, ok]
  exact ⟨rfl, holds, stored.trans (congrArg (update · field _) shows.word)⟩

theorem write (field : Field) (value : Word) :
    holder.Leads words (Vmcs.write field value).run (.ok ()) (update words field value) :=
  vmwrite field (.word value) (.vmcsAccess field)

theorem writeExitEntryPoint (field : Field) :
    holder.Leads words (Vmcs.writeExitEntryPoint field).run (.ok ())
      (update words field holder.exitEntry) :=
  vmwrite field .exitEntryPoint (.vmcsAccess field)

theorem writeAll (values : List (Field × Word)) :
    holder.Leads words (Vmcs.writeAll values).run (.ok ()) (updateAll words values) := by
  induction values generalizing words with
  | nil => exact pure (Except.ok ())
  | cons entry values ih => exact (write entry.1 entry.2).procedure_bind ih

end Leads

end VmcsHolder

end VtxMonitor
