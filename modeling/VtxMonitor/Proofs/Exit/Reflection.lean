import VtxMonitor.Exit.Emulation
import VtxMonitor.Proofs.Processor.VmcsFrame

/-!
# Proofs/Exit/Reflection — exceptions reach the guest as they were

An exception that caused an exit is queued for the next entry.  The queued event is the word that
the exit left, less the bits that an entry does not know (`EventInjection.bits_reflect`), and which
further fields are stored depends on that word (`ExitInterruption.reflected`).  **The handler stores
exactly these fields** (`exception_reflected`), whatever they held, on every processor with a
current VMCS.
-/

namespace VtxMonitor

open Vmcs (Field)

/-! ## The event -/

namespace EventInjection

variable (info : ExitInterruption)

/-- The queued event has the low twelve bits of the exit information, and is valid. -/
theorem getLsbD_reflect {i : Nat} (inside : i < 32) :
    (reflect info).bits.getLsbD i
      = (decide (i < 12) && info.bits.getLsbD i || decide (i = 31)) := by
  simp only [reflect, of, BitField.putFlag, BitField.getLsbD_put _ _ _ inside, vectorField,
    typeField, deliverErrorCodeField, validField, BitField.number, BitField.flag,
    ExitInterruption.vector, ExitInterruption.type, ExitInterruption.errorCodeValid,
    ExitInterruption.vectorField, ExitInterruption.typeField,
    ExitInterruption.errorCodeValidField, BitField.get, BitField.test, BitVec.getLsbD_extractLsb',
    BitVec.getLsbD_ofBool]
  -- Vector, type, error-code bit, reserved bits and valid bit.
  rcases Nat.lt_or_ge i 8 with vector | above
  · grind
  rcases Nat.lt_or_ge i 11 with type | above
  · grind
  · grind

/-- **The queued event is the word that the exit left, without its reserved bits.** -/
theorem bits_reflect (valid : info.valid = true) :
    (reflect info).bits = info.bits &&& 0x80000fff := by
  have mask : ∀ i < 32, (0x80000fff : BitVec 32).getLsbD i = decide (i < 12 ∨ i = 31) := by decide
  refine BitVec.eq_of_getLsbD_eq fun i inside => ?_
  rw [getLsbD_reflect info inside, BitVec.getLsbD_and, mask i inside]
  by_cases last : i = 31
  · have set : info.bits.getLsbD 31 = true := valid
    simp [last, set]
  · simp [last, Bool.and_comm]

theorem type_reflect : (reflect info).type = info.type := by
  refine BitVec.eq_of_getLsbD_eq fun i inside => ?_
  have here : 8 + i < 12 := by omega
  simp only [type, ExitInterruption.type, typeField, ExitInterruption.typeField, BitField.get,
    BitField.number, BitVec.getLsbD_extractLsb']
  rw [getLsbD_reflect info (by omega), decide_eq_true here,
    decide_eq_false (by omega : ¬8 + i = 31), Bool.true_and, Bool.or_false]

theorem deliverErrorCode_reflect : (reflect info).deliverErrorCode = info.errorCodeValid :=
  (getLsbD_reflect info (by omega : 11 < 32)).trans (Bool.or_false _)

/-- The instruction length is needed for the types that an instruction raises. -/
theorem needsInstructionLength_reflect :
    (reflect info).needsInstructionLength = decide (info.type = 4 ∨ info.type = 5 ∨ info.type = 6)
    := by
  rw [needsInstructionLength, type_reflect, Bool.decide_or, Bool.decide_or, ← Bool.or_assoc]
  rfl

end EventInjection

/-! ## The handler -/

/-- The fields of the VMCS once an event is queued. -/
def EventInjection.injected (event : EventInjection) (errorCode : BitVec 32)
    (words : Field → Word) : Field → Word :=
  update (if event.deliverErrorCode then update words .entryErrorCode (errorCode.setWidth 64)
    else words) .entryInterruption (event.bits.setWidth 64)

/-- The fields of the VMCS once the event that caused an exit is queued again. -/
def ExitInterruption.reflected (info : ExitInterruption) (words : Field → Word) : Field → Word :=
  let event := EventInjection.reflect info
  event.injected (if info.errorCodeValid then (words .exitErrorCode).setWidth 32 else 0)
    (if event.needsInstructionLength then
      update words .entryInstructionLength (words .exitInstructionLength) else words)

namespace ExitInterruption

variable (info : ExitInterruption) (words : Field → Word)

theorem reflected_interruption :
    info.reflected words .entryInterruption = (EventInjection.reflect info).bits.setWidth 64 := by
  rw [reflected, EventInjection.injected, update_self]

theorem reflected_errorCode :
    info.reflected words .entryErrorCode
      = if info.errorCodeValid then ((words .exitErrorCode).setWidth 32).setWidth 64
        else words .entryErrorCode := by
  have apart : Field.entryErrorCode ≠ .entryInstructionLength := by decide
  rw [reflected, EventInjection.injected, update_of_ne _ _ (by decide),
    EventInjection.deliverErrorCode_reflect]
  split
  · exact update_self _ _ _
  · split
    · exact update_of_ne _ _ apart
    · rfl

theorem reflected_instructionLength :
    info.reflected words .entryInstructionLength
      = if info.type = 4 ∨ info.type = 5 ∨ info.type = 6 then words .exitInstructionLength
        else words .entryInstructionLength := by
  have apart : Field.entryInstructionLength ≠ .entryErrorCode := by decide
  simp only [reflected, EventInjection.injected, EventInjection.needsInstructionLength_reflect,
    decide_eq_true_eq]
  rw [update_of_ne _ _ (by decide)]
  split
  · rw [update_of_ne _ _ apart]
    split
    · exact update_self _ _ _
    · rfl
  · split
    · exact update_self _ _ _
    · rfl

theorem reflected_of_notMem {field : Field}
    (outside : field ∉ [Field.entryInterruption, .entryErrorCode, .entryInstructionLength]) :
    info.reflected words field = words field := by
  obtain ⟨interruption, errorCode, instructionLength⟩ : field ≠ .entryInterruption ∧
      field ≠ .entryErrorCode ∧ field ≠ .entryInstructionLength := by simpa using outside
  have measured : (if (EventInjection.reflect info).needsInstructionLength then
      update words .entryInstructionLength (words .exitInstructionLength) else words) field
      = words field := by
    split
    · exact update_of_ne _ _ instructionLength
    · rfl
  rw [reflected, EventInjection.injected, update_of_ne _ _ interruption]
  split
  · exact (update_of_ne _ _ errorCode).trans measured
  · exact measured

end ExitInterruption

section

variable {σ : Type} {hw : Hardware σ} {frame : VmcsFrame hw} {rest : σ} {words : Field → Word}

theorem EventInjection.inject_leads (event : EventInjection) (errorCode : BitVec 32) :
    frame.Leads rest words (event.inject errorCode).run (.ok ())
      (event.injected errorCode words) := by
  unfold EventInjection.inject EventInjection.injected
  cases event.deliverErrorCode with
  | true => exact (VmcsHolder.Leads.write _ _).procedure_bind (.write _ _)
  | false => exact .write _ _

theorem ExitInterruption.read_leads :
    frame.Leads rest words ExitInterruption.read.run
      (.ok ⟨(words .exitInterruption).setWidth 32⟩) words :=
  (VmcsHolder.Leads.read .exitInterruption).procedure_bind (.pure _)

theorem ExitInterruption.queueAgain_leads (info : ExitInterruption) (errorCode : BitVec 32) :
    frame.Leads rest words (info.queueAgain errorCode).run (.ok ())
      ((EventInjection.reflect info).injected errorCode words) :=
  (VmcsHolder.Leads.report _).procedure_program.procedure_bind (EventInjection.inject_leads _ _)

theorem ExitInterruption.reinject_leads (info : ExitInterruption) (errorCode : BitVec 32) :
    let event := EventInjection.reflect info
    frame.Leads rest words (info.reinject errorCode).run (.ok ())
      (event.injected errorCode (if event.needsInstructionLength then
        update words .entryInstructionLength (words .exitInstructionLength) else words)) := by
  unfold ExitInterruption.reinject
  dsimp only
  split
  · exact (VmcsHolder.Leads.read _).procedure_bind
      ((VmcsHolder.Leads.write _ _).procedure_bind (info.queueAgain_leads errorCode))
  · exact info.queueAgain_leads errorCode

/-- **What is no non-maskable interrupt is queued again.** -/
theorem ExitInterruption.forward_leads (info : ExitInterruption) (other : info.isNmi = false) :
    frame.Leads rest words info.forward.run (.ok ()) (info.reflected words) := by
  unfold ExitInterruption.forward
  rw [other, if_neg Bool.false_ne_true, ExitInterruption.reflected]
  split
  · exact (VmcsHolder.Leads.read _).procedure_bind (.procedure_bind
      (.pure (Except.ok ((words .exitErrorCode).setWidth 32))) (info.reinject_leads _))
  · exact info.reinject_leads 0

end

/-! ## The result -/

/-- **Reflected exceptions are unchanged**, on every processor with a current VMCS and for every
event that caused an exit but the non-maskable interrupt.  The guest resumes with the event queued:
vector, type, error-code bit and valid bit are kept and all other bits are zero.  The error code is
stored exactly if the event announces one, the length of the instruction exactly if an instruction
raised the event, and everything else stays as it was. -/
theorem exception_reflected {σ : Type} {hw : Hardware σ} (frame : VmcsFrame hw)
    (regs : GuestRegisters) {s : σ} (holds : frame.Holds s) :
    let words := frame.word s
    let info : BitVec 32 := (words .exitInterruption).setWidth 32
    let type := info.extractLsb 10 8
    let ended := hw.execute regs s Emulation.exceptionOrNmi
    let words' := frame.word ended.state
    info.getLsbD 31 = true → type ≠ 2 →
      ended.outcome = .ok .resume ∧ ended.record = regs ∧
      words' .entryInterruption = (info &&& 0x80000fff).setWidth 64 ∧
      words' .entryErrorCode = (if info.getLsbD 11 then
        ((words .exitErrorCode).setWidth 32).setWidth 64 else words .entryErrorCode) ∧
      words' .entryInstructionLength = (if type = 4 ∨ type = 5 ∨ type = 6 then
        words .exitInstructionLength else words .entryInstructionLength) ∧
      (∀ field, field ∉ [Field.entryInterruption, .entryErrorCode, .entryInstructionLength] →
        words' field = words field) ∧
      frame.Holds ended.state ∧ frame.rest ended.state = frame.rest s := by
  intro words info type ended words' valid exception
  have other : (ExitInterruption.mk info).isNmi = false := by
    rw [ExitInterruption.isNmi, Bool.and_eq_false_imp]
    exact fun _ => decide_eq_false exception
  have leads : frame.Leads (frame.rest s) words (Emulation.exceptionOrNmi.start regs)
      (.ok .resume, regs) ((ExitInterruption.mk info).reflected words) :=
    (ExitInterruption.read_leads.start_procedure regs).start_bind
      (((ExitInterruption.forward_leads _ other).start_procedure regs).start_bind
        (.pure (Except.ok ExitType.resume, regs)))
  obtain ⟨outcome, record, shows⟩ := leads.execute (frame.shows_self holds)
  have stored : ∀ field, words' field = (ExitInterruption.mk info).reflected words field :=
    congrFun shows.word
  refine ⟨outcome, record, ?_, (stored _).trans (ExitInterruption.reflected_errorCode _ words),
    (stored _).trans (ExitInterruption.reflected_instructionLength _ words), fun field outside =>
    (stored field).trans (ExitInterruption.reflected_of_notMem _ words outside), shows.current,
    shows.rest⟩
  rw [stored, ExitInterruption.reflected_interruption, EventInjection.bits_reflect ⟨info⟩ valid]

/-- A page fault on the simulated processor, and a breakpoint that follows an unblocked
non-maskable interrupt on a machine; the fields that they do not store keep what they held. -/
theorem exception_reflected_fault_breakpoint :
    let cpu := ((SimulatedProcessor.reset.enterVmxWithCurrentVmcs.setField .exitInterruption
      0x80000b0e).setField .exitErrorCode 0xffffffff00000007).setField .entryInstructionLength 9
    let machine := ({} : Machine).setFields [(.exitInterruption, 0x80001603),
      (.exitInstructionLength, 1), (.exitErrorCode, 5), (.entryErrorCode, 8)]
    let fault := SimulatedProcessor.hardware.execute .zero cpu Emulation.exceptionOrNmi
    let breakpoint := Machine.hardware.execute .zero machine Emulation.exceptionOrNmi
    (cpu.vmcsFrame.Holds cpu ∧ fault.outcome = .ok .resume ∧
      fault.state.word .entryInterruption = 0x80000b0e ∧
      fault.state.word .entryErrorCode = 7 ∧ fault.state.word .entryInstructionLength = 9) ∧
    machine.vmcsFrame.Holds machine ∧ breakpoint.outcome = .ok .resume ∧
      breakpoint.state.field .entryInterruption = 0x80000603 ∧
      breakpoint.state.field .entryErrorCode = 8 ∧
      breakpoint.state.field .entryInstructionLength = 1 := by
  intro cpu machine fault breakpoint
  have current : cpu.vmcsFrame.Holds cpu := ⟨rfl, rfl⟩
  have idle : machine.vmcsFrame.Holds machine := rfl
  obtain ⟨outcome, -, event, errorCode, length, -⟩ :=
    exception_reflected cpu.vmcsFrame .zero current (by decide) (by decide)
  obtain ⟨outcome', -, event', errorCode', length', -⟩ :=
    exception_reflected machine.vmcsFrame .zero idle (by decide) (by decide)
  exact ⟨⟨current, outcome, event.trans (by decide), errorCode.trans (by decide),
    length.trans (by decide)⟩, idle, outcome', event'.trans (by decide),
    errorCode'.trans (by decide), length'.trans (by decide)⟩

end VtxMonitor
