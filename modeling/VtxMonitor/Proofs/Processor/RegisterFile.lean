import VtxMonitor.Proofs.Processor.VmcsHolder

/-!
# Proofs/Processor/RegisterFile — what a procedure ensures on any processor if it returns

A `RegisterFile` says of a processor what its control registers, its MSRs and the fields of its
current VMCS are, and which requests change them.  It promises no request to succeed; the simulated
processor and the machine both are such processors, in every state.  `Fallible.Ensures` relates the
states before and after a procedure **that returns**, and it is closed under sequencing, so that
what comes behind a step is known whatever made the step succeed.
-/

namespace VtxMonitor

open Vmcs (Field)

variable {σ ρ α β : Type}

namespace Operation

/-- Whether a request writes a control register. -/
def WritesCr : Operation → Prop
  | .writeCr .. => True
  | _ => False

/-- Whether a request writes an MSR. -/
def WritesMsr : Operation → Prop
  | .writeMsr .. => True
  | _ => False

/-- Whether a request can change what a field of the current VMCS holds: it writes the field, it
stores the reason of a failed launch in it, or another VMCS may be current behind it. -/
def Touches (field : Field) : Operation → Prop
  | .vmwrite written _ => written = field
  | .vmlaunch => field = .instructionError
  | .vmclear _ | .vmptrld _ => True
  | _ => False

variable {op : Operation}

theorem Filling.not_writesCr (filling : op.Filling) : ¬op.WritesCr := by
  cases op <;> first | exact id | exact filling.elim

/-- Filling fields touches no other one. -/
theorem Fills.not_touches {fields : List Field} (fills : op.Fills fields) {field : Field}
    (other : field ∉ fields) : ¬op.Touches field := by
  cases op with
  | vmwrite => exact fun touches => other (fills.mem_of_writes touches)
  | _ => first | exact id | exact fills.elim

end Operation

/-- A program that fills some fields touches no other one. -/
theorem Program.Only.not_touches {program : Program α} {fields : List Field}
    (only : program.Only (Operation.Fills fields)) {field : Field} (other : field ∉ fields) :
    program.Only fun op => ¬op.Touches field :=
  only.mono fun _ fills => fills.not_touches other

/-- A processor of which the control registers, the MSRs and the fields of the current VMCS are
known. -/
structure RegisterFile (hw : Hardware σ) where
  cr : σ → ControlRegister → Word
  msr : σ → Msr.Number → Word
  word : σ → Field → Word
  readCr : ∀ register s, (hw.answer (.readCr register) s).1 = cr s register
  readMsr : ∀ number s, (hw.answer (.readMsr number) s).1 = msr s number
  wroteCr : ∀ register value s,
    cr (hw.answer (.writeCr register value) s).2 = update (cr s) register value
  wroteMsr : ∀ number value s,
    msr (hw.answer (.writeMsr number value) s).2 = update (msr s) number value
  /-- A write that succeeds stores its value. -/
  wroteField : ∀ field value s, (hw.answer (.vmwrite field (.word value)) s).1 = .ok () →
    word (hw.answer (.vmwrite field (.word value)) s).2 field = value
  keptCr : ∀ op s, ¬op.WritesCr → cr (hw.answer op s).2 = cr s
  keptMsr : ∀ op s, ¬op.WritesMsr → msr (hw.answer op s).2 = msr s
  keptField : ∀ field op s, ¬op.Touches field → word (hw.answer op s).2 field = word s field

/-! ## The two processors -/

namespace SimulatedProcessor

theorem readCr_setCr (cpu : SimulatedProcessor) (register : ControlRegister) (value : Word) :
    (cpu.setCr register value).readCr = update cpu.readCr register value := by
  funext other
  cases register <;> cases other <;> rfl

/-- A request that writes no register leaves control registers, MSRs, CPUID and addresses alone. -/
theorem answer_of_not_writes {op : Operation} (noCr : ¬op.WritesCr) (noMsr : ¬op.WritesMsr)
    (cpu : SimulatedProcessor) :
    (answer op cpu).2.readCr = cpu.readCr ∧ (answer op cpu).2.msrs = cpu.msrs := by
  have kept : ∀ cpu' : SimulatedProcessor,
      cpu'.cr0 = cpu.cr0 ∧ cpu'.cr3 = cpu.cr3 ∧ cpu'.cr4 = cpu.cr4 ∧ cpu'.msrs = cpu.msrs →
      cpu'.readCr = cpu.readCr ∧ cpu'.msrs = cpu.msrs := by
    rintro cpu' ⟨cr0, cr3, cr4, msrs⟩
    refine ⟨funext fun register => ?_, msrs⟩
    cases register with
    | cr0 => exact cr0
    | cr3 => exact cr3
    | cr4 => exact cr4
  refine kept _ ?_
  cases op with
  | writeCr => exact absurd trivial noCr
  | writeMsr => exact absurd trivial noMsr
  | vmwrite | vmxon | vmxoff | vmclear | vmptrld | inveptAll =>
      simp only [answer, vmwrite, vmxon, vmxoff, vmclear, vmptrld, inveptAll]
      split <;> try split
      all_goals exact ⟨rfl, rfl, rfl, rfl⟩
  | vmlaunch =>
      simp only [answer, vmlaunch]
      split <;> try split
      all_goals exact ⟨rfl, rfl, rfl, rfl⟩
  | _ => exact ⟨rfl, rfl, rfl, rfl⟩

/-- The control registers, the MSRs and the fields of a simulated processor. -/
def registerFile : RegisterFile hardware where
  cr := readCr
  msr := msrs
  word := SimulatedProcessor.word
  readCr _ _ := rfl
  readMsr _ _ := rfl
  wroteCr register value cpu := readCr_setCr (cpu.record (.writeCr register value)) register value
  wroteMsr _ _ _ := rfl
  wroteField field value cpu succeeds := by
    cases current : cpu.currentVmcs with
    | none =>
        have refused : (cpu.vmwrite field value).1 = .ok () := succeeds
        rw [vmwrite, current] at refused
        exact nomatch refused
    | some vmcs =>
        have isSome : cpu.currentVmcs.isSome := by
          rw [current]
          rfl
        have stored := answer_write isSome field value
        rw [show hardware.answer (.vmwrite field (.word value)) cpu = _ from stored]
        exact cpu.word_setField_self field value
  keptCr op cpu spares := by
    cases op with
    | writeMsr => exact funext fun register => by cases register <;> rfl
    | _ => exact (answer_of_not_writes spares id cpu).1
  keptMsr op cpu spares := by
    cases op with
    | writeCr register => cases register <;> rfl
    | _ => exact (answer_of_not_writes id spares cpu).2
  keptField field op cpu spares := by
    cases op with
    | vmwrite written content =>
        have other : field ≠ written := fun same => spares same.symm
        change (cpu.vmwrite written _).2.word field = _
        rw [vmwrite]
        split
        · rfl
        · exact cpu.word_setField_of_ne _ other
    | vmlaunch =>
        change cpu.vmlaunch.2.word field = _
        rw [vmlaunch]
        split
        · rfl
        · split
          · exact word_setField_of_ne (cpu.record .vmlaunch) _ spares
          · rfl
    | vmxon address =>
        change (cpu.vmxon address).2.word field = _
        rw [vmxon]
        split <;> rfl
    | vmxoff =>
        change cpu.vmxoff.2.word field = _
        rw [vmxoff]
        split <;> rfl
    | inveptAll =>
        change cpu.inveptAll.2.word field = _
        rw [inveptAll]
        split <;> rfl
    | writeCr register => cases register <;> rfl
    | vmclear | vmptrld => exact absurd trivial spares
    | _ => rfl

end SimulatedProcessor

namespace Machine

theorem readCr_setCr (m : Machine) (register : ControlRegister) (value : Word) :
    (m.setCr register value).readCr = update m.readCr register value := by
  funext other
  cases register <;> cases other <;> rfl

/-- Invalidating cached mappings only executes instructions. -/
theorem inveptAll_executes (m : Machine) :
    ∃ instructions, m.inveptAll.2 = m.execute instructions := by
  have twice : ∀ first second, (m.execute first).execute second = m.execute (first ++ second) :=
    fun first second => by rw [execute, execute, execute, List.append_assoc]
  rw [inveptAll]
  split
  · exact ⟨_, twice _ _⟩
  · exact ⟨_, rfl⟩

/-- The control registers, the MSRs and the fields of a machine. -/
def registerFile : RegisterFile hardware where
  cr := readCr
  msr := msrs
  word := Machine.field
  readCr _ _ := rfl
  readMsr _ _ := rfl
  wroteCr register value m :=
    (readCr_setCr _ register value).trans (by rw [readCr_execute])
  wroteMsr _ _ _ := rfl
  wroteField field value m _ := by
    have stored := (m.execute [.vmwrite field (.word value)]).field_setField field (.word value)
    exact (congrFun stored field).trans (update_self _ _ _)
  keptCr op m spares := by
    funext register
    cases op with
    | writeCr => exact absurd trivial spares
    | inveptAll =>
        obtain ⟨instructions, executes⟩ := m.inveptAll_executes
        rw [show (hardware.answer .inveptAll m).2 = _ from executes, readCr_execute]
    | _ => cases register <;> rfl
  keptMsr op m spares := by
    cases op with
    | writeMsr => exact absurd trivial spares
    | writeCr register => cases register <;> rfl
    | inveptAll =>
        obtain ⟨instructions, executes⟩ := m.inveptAll_executes
        rw [show (hardware.answer .inveptAll m).2 = _ from executes]
        rfl
    | _ => rfl
  keptField field op m spares := by
    cases op with
    | vmwrite written content =>
        have stored := (m.execute [.vmwrite written content]).field_setField written content
        exact (congrFun stored field).trans (update_of_ne _ _ fun same => spares same.symm)
    | writeCr register => cases register <;> rfl
    | inveptAll =>
        obtain ⟨instructions, executes⟩ := m.inveptAll_executes
        rw [show (hardware.answer .inveptAll m).2 = _ from executes]
        rfl
    | vmclear | vmptrld => exact absurd trivial spares
    | _ => rfl

end Machine

/-! ## Requests that are not made -/

namespace RegisterFile

variable {hw : Hardware σ} (file : RegisterFile hw) {program : Program α}

theorem keptCr_run (only : program.Only fun op => ¬op.WritesCr) (s : σ) :
    file.cr (hw.run program s).2 = file.cr s := by
  induction program generalizing s with
  | done value => rfl
  | perform op next ih => exact (ih _ (only.2 _) _).trans (file.keptCr op s only.1)

/-- Where no control register is written, every request is made with the same ones. -/
theorem keptCr_steps (only : program.Only fun op => ¬op.WritesCr) {s : σ}
    {step : Operation × σ} (mem : step ∈ hw.steps program s) : file.cr step.2 = file.cr s := by
  induction program generalizing s with
  | done value => exact absurd mem List.not_mem_nil
  | perform op next ih =>
      rcases List.mem_cons.1 mem with rfl | mem
      · rfl
      · exact (ih _ (only.2 _) mem).trans (file.keptCr op s only.1)

theorem keptMsr_run (only : program.Only fun op => ¬op.WritesMsr) (s : σ) :
    file.msr (hw.run program s).2 = file.msr s := by
  induction program generalizing s with
  | done value => rfl
  | perform op next ih => exact (ih _ (only.2 _) _).trans (file.keptMsr op s only.1)

theorem keptField_run {field : Field} (only : program.Only fun op => ¬op.Touches field) (s : σ) :
    file.word (hw.run program s).2 field = file.word s field := by
  induction program generalizing s with
  | done value => rfl
  | perform op next ih => exact (ih _ (only.2 _) _).trans (file.keptField field op s only.1)

end RegisterFile

/-! ## Procedures that return -/

/-- **If a procedure returns**, record and processor satisfy an assertion behind it, provided that
they satisfied one before. -/
def Fallible.Ensures (hw : Hardware σ) (before : ρ → σ → Prop) (procedure : Fallible ρ α)
    (after : α → ρ → σ → Prop) : Prop :=
  ∀ record s, before record s → ∀ value, (hw.execute record s procedure).outcome = .ok value →
    after value (hw.execute record s procedure).record (hw.execute record s procedure).state

namespace Fallible.Ensures

variable {hw : Hardware σ} {before : ρ → σ → Prop} {middle : α → ρ → σ → Prop}
  {after : β → ρ → σ → Prop}

/-- **A sequence ensures what its second part ensures of what the first part ensures.** -/
theorem bind {procedure : Fallible ρ α} {next : α → Fallible ρ β}
    (first : Ensures hw before procedure middle)
    (rest : ∀ value, Ensures hw (middle value) (next value) after) :
    Ensures hw before (procedure >>= next) after := by
  intro record s holds result returned
  have between := first record s holds
  rw [Hardware.execute_bind] at returned ⊢
  generalize hw.execute record s procedure = ended at between returned ⊢
  obtain ⟨error | value, record', s'⟩ := ended
  · exact nomatch returned
  · exact rest value record' s' (between value rfl) result returned

/-- An assertion that a program keeps, whether it returns or not. -/
theorem of_kept {procedure : Fallible ρ α} (kept : ∀ record s, before record s →
      before (hw.execute record s procedure).record (hw.execute record s procedure).state) :
    Ensures hw before procedure fun _ => before :=
  fun record s holds _ _ => kept record s holds

theorem of_throw (error : Error) : Ensures hw before (throw error : Fallible ρ α) middle :=
  fun _ _ _ _ returned => nomatch returned

/-- Nothing is ensured. -/
theorem top (procedure : Fallible ρ α) : Ensures hw before procedure fun _ _ _ => True :=
  fun _ _ _ _ _ => trivial

/-- A handler that runs from anywhere. -/
theorem handled {procedure : Fallible ρ α} {handler : Error → Fallible ρ α}
    (first : Ensures hw before procedure middle)
    (rest : ∀ error, Ensures hw (fun _ _ => True) (handler error) middle) :
    Ensures hw before (tryCatch procedure handler) middle := by
  intro record s holds result returned
  have behind := first record s holds
  rw [Hardware.execute_tryCatch] at returned ⊢
  generalize hw.execute record s procedure = ended at behind returned ⊢
  obtain ⟨error | value, record', s'⟩ := ended
  · exact rest error record' s' trivial result returned
  · exact behind result returned

/-- What a procedure ensures that does not own the record. -/
theorem of_procedure {procedure : Procedure α} (ensures : ∀ record s, before record s →
    ∀ value, (hw.run procedure.run s).1 = .ok value →
      middle value record (hw.run procedure.run s).2) :
    Ensures hw before (liftM procedure : Fallible ρ α) middle := by
  intro record s holds value returned
  rw [Hardware.execute_procedure] at returned ⊢
  exact ensures record s holds value returned

end Fallible.Ensures

/-- **Every request of a procedure**, with the state that it is made in, satisfies a condition,
provided that record and processor satisfied an assertion before. -/
def Fallible.Asks (hw : Hardware σ) (before : ρ → σ → Prop) (procedure : Fallible ρ α)
    (condition : Operation → σ → Prop) : Prop :=
  ∀ record s, before record s → ∀ step ∈ hw.stepsOf record s procedure, condition step.1 step.2

namespace Fallible.Asks

variable {hw : Hardware σ} {before : ρ → σ → Prop} {middle : α → ρ → σ → Prop}
  {condition : Operation → σ → Prop}

/-- Requests that satisfy the condition in every state. -/
theorem of_only {procedure : Fallible ρ α}
    (only : ∀ record, (procedure.start record).Only fun op => ∀ s, condition op s) :
    Asks hw before procedure condition :=
  fun record _ _ step mem => (only record).of_mem_steps mem step.2

theorem bind {procedure : Fallible ρ α} {next : α → Fallible ρ β}
    (first : Asks hw before procedure condition) (ensures : Ensures hw before procedure middle)
    (rest : ∀ value, Asks hw (middle value) (next value) condition) :
    Asks hw before (procedure >>= next) condition := by
  intro record s holds step mem
  have between := ensures record s holds
  rw [Hardware.stepsOf_bind] at mem
  rcases List.mem_append.1 mem with mem | mem
  · exact first record s holds step mem
  generalize hw.execute record s procedure = ended at between mem
  obtain ⟨error | value, record', s'⟩ := ended
  · exact absurd mem List.not_mem_nil
  · exact rest value record' s' (between value rfl) step mem

theorem handled {procedure : Fallible ρ α} {handler : Error → Fallible ρ α}
    (first : Asks hw before procedure condition)
    (rest : ∀ error, Asks hw (fun _ _ => True) (handler error) condition) :
    Asks hw before (tryCatch procedure handler) condition := by
  intro record s holds step mem
  rw [Hardware.stepsOf_tryCatch] at mem
  rcases List.mem_append.1 mem with mem | mem
  · exact first record s holds step mem
  generalize hw.execute record s procedure = ended at mem
  obtain ⟨error | value, record', s'⟩ := ended
  · exact rest error record' s' trivial step mem
  · exact absurd mem List.not_mem_nil

end Fallible.Asks

/-! ## Writes that succeed -/

namespace RegisterFile

variable {hw : Hardware σ} (file : RegisterFile hw)

/-- A write that succeeds leaves its value in the field. -/
theorem word_write {field : Field} {value : Word} {s : σ}
    (succeeds : (hw.run (Vmcs.write field value).run s).1 = .ok ()) :
    file.word (hw.run (Vmcs.write field value).run s).2 field = value := by
  have ran : hw.run (Vmcs.write field value).run s
      = ((hw.answer (.vmwrite field (.word value)) s).1.mapError (.vmcsAccess field),
        (hw.answer (.vmwrite field (.word value)) s).2) := rfl
  rw [ran] at succeeds ⊢
  refine file.wroteField field value s ?_
  generalize (hw.answer (.vmwrite field (.word value)) s).1 = reply at succeeds ⊢
  cases reply with
  | error fail => exact nomatch succeeds
  | ok => rfl

/-- **Writes that succeed leave their values in distinct fields.** -/
theorem word_writeAll {values : List (Field × Word)} (distinct : (values.map Prod.fst).Nodup)
    {s : σ} (succeed : (hw.run (Vmcs.writeAll values).run s).1 = .ok ()) {field : Field}
    {value : Word} (mem : (field, value) ∈ values) :
    file.word (hw.run (Vmcs.writeAll values).run s).2 field = value := by
  induction values generalizing s with
  | nil => exact absurd mem List.not_mem_nil
  | cons entry rest ih =>
      obtain ⟨fresh, distinct⟩ := List.nodup_cons.1 distinct
      have sequence : Vmcs.writeAll (entry :: rest)
          = Vmcs.write entry.1 entry.2 >>= fun _ => Vmcs.writeAll rest := rfl
      have stored := @word_write _ _ file entry.1 entry.2 s
      rw [sequence, Hardware.run_procedure_bind] at succeed ⊢
      generalize hw.run (Vmcs.write entry.1 entry.2).run s = first at stored succeed ⊢
      obtain ⟨error | ⟨⟩, s'⟩ := first
      · exact nomatch succeed
      rcases List.mem_cons.1 mem with rfl | mem
      · -- The first value stays, since what follows writes other fields.
        have fills := Vmcs.writeAll_fills fun entry (mem : entry ∈ rest) =>
          List.mem_map_of_mem (f := Prod.fst) mem
        exact (file.keptField_run (fills.not_touches fresh) s').trans (stored rfl)
      · exact ih distinct succeed mem

end RegisterFile

end VtxMonitor
