import VtxMonitor.Proofs.Control.Fields

/-!
# Proofs/Control/Writers — the two ways of writing a control word agree

`writeExact` refuses a word that the processor does not permit, `writeAdjusted` stores the nearest
one that it does.  Where every mandatory bit is allowed, the permitted words are exactly those that
adjusting leaves alone (`AllowedSettings.permits_iff_adjust_eq`), and **an adjusted word is the
least permitted one that keeps what can be kept** (`AllowedSettings.adjust_least`).  Hence the two
writers do the same to a permitted word, and a refusal leaves everything as it was
(`VmxControl.writers_agree`).
-/

namespace VtxMonitor

open Vmcs (Field)

/-! ## Adjusted words -/

namespace AllowedSettings

variable {settings : AllowedSettings}

/-- A word keeps every requested bit that is allowed. -/
def Keeps (settings : AllowedSettings) (requested value : BitVec 32) : Prop :=
  ∀ i, requested.getLsbD i = true → settings.allowed1.getLsbD i = true → value.getLsbD i = true

/-- The least permitted word, as a set of bits, that keeps every requested bit that is allowed. -/
structure Least (settings : AllowedSettings) (requested value : BitVec 32) : Prop where
  permitted : settings.permits value = true
  keeps : settings.Keeps requested value
  below : ∀ other, settings.permits other = true → settings.Keeps requested other →
    ∀ i, value.getLsbD i = true → other.getLsbD i = true

/-- **An adjusted word is the least permitted one that keeps what can be kept.** -/
theorem adjust_least (consistent : settings.Consistent) (requested : BitVec 32) :
    settings.Least requested (settings.adjust requested) where
  permitted := permits_adjust consistent requested
  keeps i asked allowed := by rw [getLsbD_adjust, asked, allowed, Bool.true_or, Bool.true_and]
  below other permitted keeps i set := by
    rw [getLsbD_adjust, Bool.and_eq_true, Bool.or_eq_true] at set
    obtain ⟨asked | mandatory, allowed⟩ := set
    · exact keeps i asked allowed
    · exact (permits_iff.1 permitted).1 i mandatory

/-- **Adjusting leaves permitted words alone, and no others.** -/
theorem permits_iff_adjust_eq (consistent : settings.Consistent) {value : BitVec 32} :
    settings.permits value = true ↔ settings.adjust value = value := by
  constructor
  · intro permitted
    obtain ⟨mandatory, allowed⟩ := permits_iff.1 permitted
    refine BitVec.eq_of_getLsbD_eq fun i _ => ?_
    rw [getLsbD_adjust]
    cases set : value.getLsbD i with
    | true => rw [allowed i set, Bool.true_or, Bool.true_and]
    | false =>
        cases forced : settings.allowed0.getLsbD i with
        | true => exact absurd (mandatory i forced) (set ▸ Bool.false_ne_true)
        | false => rfl
  · intro same
    rw [← same]
    exact permits_adjust consistent value

end AllowedSettings

/-! ## Running the writers -/

section

variable {σ : Type} {hw : Hardware σ} {control : VmxControl} {value : BitVec 32}

namespace Hardware

theorem run_writeExact (s : σ) :
    let read := hw.run (AllowedSettings.read control) s
    hw.run (control.writeExact value).run s
      = if read.1.permits value then
          hw.run (Vmcs.write control.field (value.setWidth 64)).run read.2
        else (.error (.invalidControlValue control.label (value.setWidth 64)
            (read.1.allowed1.setWidth 64)),
          (hw.answer (.report (.controlRefused control value read.1)) read.2).2) := by
  rw [VmxControl.writeExact, run_procedure_program]
  dsimp only
  split <;> rfl

/-- Where reports leave no trace, adjusting writes one word after the settings are read. -/
theorem run_writeAdjusted (silent : ∀ diagnostic t, (hw.answer (.report diagnostic) t).2 = t)
    (s : σ) :
    let read := hw.run (AllowedSettings.read control) s
    let word := read.1.adjust value
    let written := hw.run (Vmcs.write control.field (word.setWidth 64)).run read.2
    hw.run (control.writeAdjusted value).run s = (written.1.map fun _ => word, written.2) := by
  intro read word written
  have adjusted : hw.run (control.adjusted value) s = (word, read.2) := run_bind hw _ _ s
  have reported : (hw.run (control.reportUnsupported value word) read.2).2 = read.2 := by
    rw [VmxControl.reportUnsupported]
    split
    · exact silent _ _
    · rfl
  rw [VmxControl.writeAdjusted, run_procedure_program, adjusted, run_procedure_program, reported,
    run_procedure_report, silent, run_procedure_bind]
  rcases ran : hw.run (Vmcs.write control.field (word.setWidth 64)).run read.2 with ⟨_ | _, _⟩
  all_goals simp only [written, ran]; rfl

end Hardware

namespace VmxControl

variable {frame : VmcsFrame hw} {rest : σ} {words : Field → Word}

theorem writeExact_leads (permitted : (hw.allowedSettings rest control).permits value = true) :
    frame.Leads rest words (control.writeExact value).run (.ok ())
      (update words control.field (value.setWidth 64)) := by
  refine (AllowedSettings.read_leads control).procedure_program.procedure_bind ?_
  rw [if_pos permitted]
  exact .write _ _

theorem writeExact_leads_refused
    (refused : ¬(hw.allowedSettings rest control).permits value = true) :
    frame.Leads rest words (control.writeExact value).run
      (.error (.invalidControlValue control.label (value.setWidth 64)
        ((hw.allowedSettings rest control).allowed1.setWidth 64))) words := by
  refine (AllowedSettings.read_leads control).procedure_program.procedure_bind ?_
  rw [if_neg refused]
  exact (VmcsHolder.Leads.report _).procedure_program.procedure_bind (.pure _)

/-- A permitted word is not adjusted. -/
theorem writeAdjusted_leads_permitted (consistent : (hw.allowedSettings rest control).Consistent)
    (permitted : (hw.allowedSettings rest control).permits value = true) :
    frame.Leads rest words (control.writeAdjusted value).run (.ok value)
      (update words control.field (value.setWidth 64)) := by
  have leads : frame.Leads rest words (control.writeAdjusted value).run _ _ :=
    control.writeAdjusted_leads value
  rwa [(AllowedSettings.permits_iff_adjust_eq consistent).1 permitted] at leads

/-- A writer that refuses a value only reads the settings. -/
theorem run_writeExact_refused
    (silent : ∀ diagnostic t, (hw.answer (.report diagnostic) t).2 = t) {s : σ}
    (refused : ¬(hw.run (AllowedSettings.read control) s).1.permits value = true) :
    (hw.run (control.writeExact value).run s).2
      = (hw.run (AllowedSettings.read control) s).2 := by
  rw [Hardware.run_writeExact, if_neg refused, silent]

/-- Where a value is permitted, both writers leave the same state. -/
theorem run_writers_permitted
    (silent : ∀ diagnostic t, (hw.answer (.report diagnostic) t).2 = t) {s : σ}
    (consistent : (hw.run (AllowedSettings.read control) s).1.Consistent)
    (permitted : (hw.run (AllowedSettings.read control) s).1.permits value = true) :
    (hw.run (control.writeExact value).run s).2
      = (hw.run (control.writeAdjusted value).run s).2 := by
  rw [Hardware.run_writeExact, if_pos permitted, Hardware.run_writeAdjusted silent,
    (AllowedSettings.permits_iff_adjust_eq consistent).1 permitted]

/-! ## The result -/

/-- **The two writers agree**, for every control and value, on every processor with a current VMCS
whose settings are consistent and on which reports leave no trace.  Writing a value as it is
succeeds exactly if adjusting returns that value, and then both leave the same state; otherwise it
fails, naming the control, the value and the allowed bits, and leaves the processor as it is, but
for what reading an MSR may leave behind.  The word that adjusting stores is accepted as it is, is
the same when it is adjusted again, and is the least permitted one that keeps the requested bits
that are allowed. -/
theorem writers_agree (frame : VmcsFrame hw)
    (silent : ∀ diagnostic t, (hw.answer (.report diagnostic) t).2 = t) (control : VmxControl)
    (value : BitVec 32) {s : σ} (holds : frame.Holds s)
    (consistent : (hw.allowedSettings s control).Consistent) :
    let settings := hw.allowedSettings s control
    let stored := fun words (word : BitVec 32) => update words control.field (word.setWidth 64)
    let plain := hw.run (control.writeExact value).run s
    let adjusted := hw.run (control.writeAdjusted value).run s
    (plain.1 = .ok () ↔ adjusted.1 = .ok value) ∧
    (plain.1 = .ok () → plain.2 = adjusted.2 ∧
      frame.Shows (frame.rest s) (stored (frame.word s) value) plain.2) ∧
    (plain.1 ≠ .ok () →
      plain.1 = .error (.invalidControlValue control.label (value.setWidth 64)
        (settings.allowed1.setWidth 64)) ∧
      frame.Shows (frame.rest s) (frame.word s) plain.2 ∧
      ((∀ number t, (hw.answer (.readMsr number) t).2 = t) → plain.2 = s)) ∧
    ∃ word, adjusted.1 = .ok word ∧
      frame.Shows (frame.rest s) (stored (frame.word s) word) adjusted.2 ∧
      settings.Least value word ∧
      ∀ words,
        frame.Leads (frame.rest s) words (control.writeExact word).run (.ok ())
          (stored words word) ∧
        frame.Leads (frame.rest s) words (control.writeAdjusted word).run (.ok word)
          (stored words word) := by
  intro settings stored plain adjusted
  have shows := frame.shows_self holds
  have same : hw.allowedSettings (frame.rest s) control = settings :=
    frame.allowedSettings_rest holds control
  have read : (hw.run (AllowedSettings.read control) s).1 = settings :=
    (AllowedSettings.read_leads control s shows).1.trans same
  have least := AllowedSettings.adjust_least consistent value
  have lasting : (hw.allowedSettings (frame.rest s) control).permits (settings.adjust value)
      = true := by
    rw [same]
    exact least.permitted
  obtain ⟨returned, left⟩ : adjusted.1 = .ok (settings.adjust value) ∧
      frame.Shows (frame.rest s) (stored (frame.word s) (settings.adjust value)) adjusted.2 :=
    same ▸ control.writeAdjusted_leads value s shows
  have returns : adjusted.1 = .ok value ↔ settings.permits value = true := by
    rw [AllowedSettings.permits_iff_adjust_eq consistent, returned, Except.ok.injEq]
  have accepted : settings.permits value = true → plain.1 = .ok () ∧
      frame.Shows (frame.rest s) (stored (frame.word s) value) plain.2 := fun permitted =>
    writeExact_leads (same ▸ permitted) s shows
  have refused : ¬settings.permits value = true → plain.1 = .error (.invalidControlValue
      control.label (value.setWidth 64) (settings.allowed1.setWidth 64)) ∧
      frame.Shows (frame.rest s) (frame.word s) plain.2 := fun refused =>
    same ▸ writeExact_leads_refused (same ▸ refused) s shows
  have accepts : plain.1 = .ok () ↔ settings.permits value = true := by
    refine ⟨fun ok => ?_, fun permitted => (accepted permitted).1⟩
    refine Decidable.byContradiction fun denied => ?_
    exact nomatch (refused denied).1.symm.trans ok
  refine ⟨accepts.trans returns.symm, fun ok => ?_, fun failed => ?_, settings.adjust value,
    returned, left, least, fun words => ⟨?_, ?_⟩⟩
  · have permitted := accepts.1 ok
    refine ⟨?_, (accepted permitted).2⟩
    exact run_writers_permitted silent (read ▸ consistent) (read ▸ permitted)
  · have denied := mt accepts.2 failed
    refine ⟨(refused denied).1, (refused denied).2, fun traceless => ?_⟩
    refine (run_writeExact_refused silent (read ▸ denied)).trans ?_
    exact (traceless _ _).trans (traceless _ _)
  · exact writeExact_leads lasting
  · exact writeAdjusted_leads_permitted (same ▸ consistent) lasting

/-- A refused value on the simulated processor at reset, and a permitted one on a machine that
allows no more than 16 bits. -/
theorem writers_agree_pinBased :
    let cpu := SimulatedProcessor.reset.enterVmxWithCurrentVmcs
    let machine : Machine := { msrs := fun _ => 0x0000ffff00000016 }
    let refused := SimulatedProcessor.hardware.run (writeExact .pinBased 0x08).run cpu
    let plain := Machine.hardware.run (writeExact .pinBased 0x1f).run machine
    let adjusted := Machine.hardware.run (writeAdjusted .pinBased 0x1f).run machine
    refused.2 = cpu ∧ plain.1 = .ok () ∧ plain.2 = adjusted.2 := by
  intro cpu machine refused plain adjusted
  have current : cpu.vmcsFrame.Holds cpu := ⟨rfl, rfl⟩
  have idle : machine.vmcsFrame.Holds machine := rfl
  have consistent : (SimulatedProcessor.hardware.allowedSettings cpu .pinBased).Consistent := by
    decide
  have consistent' : (Machine.hardware.allowedSettings machine .pinBased).Consistent := by decide
  obtain ⟨-, -, refuses, -⟩ :=
    writers_agree cpu.vmcsFrame (fun _ _ => rfl) .pinBased 0x08 current consistent
  obtain ⟨-, agree, -, -⟩ :=
    writers_agree machine.vmcsFrame (fun _ _ => rfl) .pinBased 0x1f idle consistent'
  have accepted : plain.1 = .ok () :=
    (writeExact_leads (by decide) machine (machine.vmcsFrame.shows_self idle)).1
  have failed : refused.1 = .error _ :=
    (writeExact_leads_refused (by decide) cpu (cpu.vmcsFrame.shows_self current)).1
  have unchanged := (refuses fun ok => nomatch failed.symm.trans ok).2.2
  exact ⟨unchanged fun _ _ => rfl, accepted, (agree accepted).1⟩

end VmxControl

end

end VtxMonitor
