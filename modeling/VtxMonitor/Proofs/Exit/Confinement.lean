import VtxMonitor.Exit.Emulation
import VtxMonitor.Proofs.Interruption.NmiWindow
import VtxMonitor.Proofs.Processor.Interference
import VtxMonitor.Proofs.Simulator.Filling

/-!
# Proofs/Exit/Confinement — how far the emulation of a guest reaches

A `Scope` names the VMCS fields, the MSRs and the use of NMI-window exiting that are open to a
change; `Confined` relates two processors that differ in no more.  A program whose requests stay
within a scope **keeps to that relation between any two of its requests**, whoever else runs in
between (`Program.Only.guarantees`).  Turning NMI-window exiting on or off reads and writes
the primary control word in two requests; it keeps to the relation as well
(`NmiWindow.setExiting_guarantees`).
-/

namespace VtxMonitor

open SimulatedProcessor (hardware)

/-- What may happen to NMI-window exiting. -/
inductive WindowUse where
  | kept
  | opened
  | switched

namespace WindowUse

/-- Whether NMI-window exiting may change in this way. -/
def Allows : WindowUse → Bool → Bool → Prop
  | .kept, before, after => after = before
  | .opened, before, after => before = true → after = true
  | .switched, _, _ => True

theorem Allows.of_eq (use : WindowUse) {before after : Bool} (h : after = before) :
    use.Allows before after := by
  cases use with
  | kept => exact h
  | opened => exact fun isOpen => h.trans isOpen
  | switched => trivial

theorem Allows.trans {use : WindowUse} {first second third : Bool}
    (h : use.Allows first second) (h' : use.Allows second third) : use.Allows first third := by
  cases use with
  | kept => exact Eq.trans h' h
  | opened => exact fun isOpen => h' (h isOpen)
  | switched => trivial

theorem opened_allows (before : Bool) : opened.Allows before true := fun _ => rfl

theorem switched_allows (before after : Bool) : switched.Allows before after := trivial

end WindowUse

/-- What a change of a processor may extend to: VMCS fields besides the primary control word, MSRs,
and NMI-window exiting. -/
structure Scope where
  fields : Vmcs.Field → Prop
  msrs : Msr.Number → Prop
  window : WindowUse

/-- The VMCS fields that emulating something for a guest may write, besides NMI-window exiting in
the primary control word. -/
def emulatedFields : List Vmcs.Field :=
  [.entryInterruption, .entryErrorCode, .entryInstructionLength, .cr0Shadow, .cr4Shadow,
    .guestCr0, .guestCr3, .guestCr4, .guestRsp]

/-- The scope of emulating something for a guest, with the MSRs that may be written. -/
def Scope.emulation (msrs : Msr.Number → Prop) (use : WindowUse) : Scope :=
  ⟨(· ∈ emulatedFields), msrs, use⟩

/-- The second processor differs from the first only in what a scope is open to, and in the recorded
events. -/
structure Confined (scope : Scope) (cpu cpu' : SimulatedProcessor) : Prop where
  rest : cpu' = { cpu with fields := cpu'.fields, msrs := cpu'.msrs, events := cpu'.events }
  fields : ∀ field, ¬scope.fields field → field ≠ .primaryControls →
    cpu'.fields field = cpu.fields field
  msrs : ∀ msr, ¬scope.msrs msr → cpu'.msrs msr = cpu.msrs msr
  others : NmiWindow.others cpu'.primaryControls = NmiWindow.others cpu.primaryControls
  window : scope.window.Allows cpu.nmiWindowOpen cpu'.nmiWindowOpen

namespace Confined

variable {scope scope' : Scope} {cpu cpu' cpu'' : SimulatedProcessor}

theorem refl (cpu : SimulatedProcessor) : Confined scope cpu cpu :=
  ⟨rfl, fun _ _ _ => rfl, fun _ _ => rfl, rfl, .of_eq scope.window rfl⟩

theorem trans (h : Confined scope cpu cpu') (h' : Confined scope cpu' cpu'') :
    Confined scope cpu cpu'' where
  rest := by
    rw [h'.rest, h.rest]
  fields field free other := (h'.fields field free other).trans (h.fields field free other)
  msrs msr free := (h'.msrs msr free).trans (h.msrs msr free)
  others := h'.others.trans h.others
  window := h.window.trans h'.window

/-- A wider scope allows more. -/
theorem mono (h : Confined scope cpu cpu')
    (fields : ∀ field, scope.fields field → scope'.fields field)
    (msrs : ∀ msr, scope.msrs msr → scope'.msrs msr) (window : scope'.window = scope.window) :
    Confined scope' cpu cpu' where
  rest := h.rest
  fields field free other := h.fields field (free ∘ fields field) other
  msrs msr free := h.msrs msr (free ∘ msrs msr)
  others := h.others
  window := window ▸ h.window

theorem currentVmcs (h : Confined scope cpu cpu') : cpu'.currentVmcs = cpu.currentVmcs := by
  rw [h.rest]

/-- Changing fields of the scope, but not the primary control word. -/
theorem withFields (cpu : SimulatedProcessor) {fields : Vmcs.Field → Option Word}
    (same : ∀ field, ¬scope.fields field → fields field = cpu.fields field)
    (primary : fields .primaryControls = cpu.fields .primaryControls) :
    Confined scope cpu { cpu with fields := fields } := by
  have kept : ({ cpu with fields := fields } : SimulatedProcessor).primaryControls
      = cpu.primaryControls := SimulatedProcessor.primaryControls_congr primary
  refine ⟨rfl, fun field free _ => same field free, fun _ _ => rfl, ?_, ?_⟩
  · rw [kept]
  · exact .of_eq scope.window (congrArg NmiWindow.isOpen kept)

/-- Writing a field of the scope that is not the primary control word. -/
theorem setField (cpu : SimulatedProcessor) {field : Vmcs.Field} (mem : scope.fields field)
    (other : Vmcs.Field.primaryControls ≠ field) (value : Word) :
    Confined scope cpu (cpu.setField field value) := by
  refine withFields cpu (fun free isFree => cpu.fields_setField_of_ne value ?_)
    (cpu.fields_setField_of_ne value other)
  rintro rfl
  exact isFree mem

/-- Writing the primary control word with NMI-window exiting turned on or off. -/
theorem setPrimary (cpu : SimulatedProcessor) {primary : BitVec 32} {enabled : Bool}
    (others : NmiWindow.others primary = NmiWindow.others cpu.primaryControls)
    (allowed : scope.window.Allows cpu.nmiWindowOpen enabled) :
    Confined scope cpu
      (cpu.setField .primaryControls ((NmiWindow.update enabled primary).setWidth 64)) where
  rest := rfl
  fields _ _ other := cpu.fields_setField_of_ne _ other
  msrs _ _ := rfl
  others := by
    rw [SimulatedProcessor.primaryControls_setField, NmiWindow.others_update, others]
  window := by
    rw [SimulatedProcessor.nmiWindowOpen_setField]
    exact allowed

/-- Writing an MSR of the scope. -/
theorem writeMsr (cpu : SimulatedProcessor) {msr : Msr.Number} (mem : scope.msrs msr)
    (value : Word) : Confined scope cpu ((cpu.record (.writeMsr msr value)).setMsr msr value) where
  rest := rfl
  fields _ _ _ := rfl
  msrs _ free := update_of_ne _ _ fun same => free (same ▸ mem)
  others := rfl
  window := .of_eq scope.window rfl

/-- Both primary control words stay permitted unless a capability MSR behind them may be written. -/
theorem switchable (h : Confined scope cpu cpu') (switchable : cpu.WindowSwitchable)
    (capability : ∀ msr ∈ Msr.primaryCapability, ¬scope.msrs msr) :
    cpu'.WindowSwitchable where
  current := by
    rw [h.currentVmcs]
    exact switchable.current
  permitted enabled := by
    have basic : cpu'.msrs Msr.vmxBasic = cpu.msrs Msr.vmxBasic :=
      h.msrs _ (capability _ (by decide))
    have settings : cpu'.allowedSettings .primary = cpu.allowedSettings .primary := by
      rw [← SimulatedProcessor.ofCapability_msrs, ← SimulatedProcessor.ofCapability_msrs, basic]
      refine congrArg AllowedSettings.ofCapability (h.msrs _ (capability _ ?_))
      cases (VmxBasic.mk (cpu.msrs Msr.vmxBasic)).trueControls <;> decide
    rw [settings, NmiWindow.update_congr h.others]
    exact switchable.permitted enabled

end Confined

/-! ## Requests within the bounds -/

variable {scope : Scope} {base : SimulatedProcessor}

/-- Requests that change nothing but fields and MSRs of a scope. -/
def Operation.Within (scope : Scope) : Operation → Prop
  | .vmwrite field _ => scope.fields field ∧ .primaryControls ≠ field
  | .writeMsr msr _ => scope.msrs msr
  | op => op.Passive

theorem Operation.Within.answer {op : Operation} (within : op.Within scope)
    (cpu : SimulatedProcessor) : Confined scope cpu (SimulatedProcessor.answer op cpu).2 := by
  cases op with
  | vmwrite field content =>
      simp only [SimulatedProcessor.answer, SimulatedProcessor.vmwrite]
      split
      · exact .refl cpu
      · exact .setField cpu within.1 within.2 _
  | writeMsr msr value => exact .writeMsr cpu within value
  | _ => first | exact .refl cpu | exact within.elim

/-- **Requests within a scope keep to the relation**, whatever happens between them. -/
theorem Program.Only.guarantees {α : Type} {program : Program α}
    (within : program.Only (Operation.Within scope)) (base : SimulatedProcessor) :
    program.Guarantees hardware (Confined scope) base := by
  induction program with
  | done value => trivial
  | perform op next ih => exact fun s _ => ⟨within.1.answer s, ih _ (within.2 _)⟩

/-- A whole run stays within the scope. -/
theorem Program.Guarantees.confined {α : Type} {program : Program α} {cpu : SimulatedProcessor}
    (guarantees : program.Guarantees hardware (Confined scope) cpu) :
    Confined scope cpu (hardware.run program cpu).2 :=
  guarantees.run Confined.refl Confined.trans (.refl cpu)

/-! ## Turning NMI-window exiting on and off -/

section Window

variable {enabled : Bool}

/-- Writing the primary control word, with the bits besides NMI-window exiting as they are. -/
theorem VmxControl.writeExact_guarantees {primary : BitVec 32}
    (others : NmiWindow.others primary = NmiWindow.others base.primaryControls)
    (allowed : ∀ before, scope.window.Allows before enabled) :
    (VmxControl.writeExact .primary (NmiWindow.update enabled primary)).run.Guarantees hardware
      (Confined scope) base := by
  have read : (liftM (AllowedSettings.read .primary) : Procedure AllowedSettings).run.Only
      (Operation.Within scope) := ⟨trivial, fun _ => ⟨trivial, fun _ => trivial⟩⟩
  refine (read.guarantees base).procedure_bind fun settings => ?_
  split
  · intro s related
    refine ⟨?_, trivial⟩
    simp only [hardware, SimulatedProcessor.answer, SimulatedProcessor.vmwrite]
    split
    · exact .refl s
    · exact .setPrimary s (others.trans related.others.symm) (allowed _)
  · exact fun s _ => ⟨.refl s, trivial⟩

/-- Reading a field: what comes behind it may use that the value is one of a related processor. -/
theorem Vmcs.read_bind_guarantees {α : Type} {field : Vmcs.Field} {next : Word → Procedure α}
    (rest : ∀ s, Confined scope base s →
      (next (s.word field)).run.Guarantees hardware (Confined scope) base) :
    (Vmcs.read field >>= next).run.Guarantees hardware (Confined scope) base := by
  intro s related
  refine ⟨.refl s, ?_⟩
  by_cases current : s.currentVmcs.isSome
  · rw [show (hardware.answer (.vmread field) s).1 = .ok (s.word field) from
      SimulatedProcessor.vmread_of_current current field]
    exact rest s related
  · have failed : s.vmread field = .error .invalid := by
      rw [SimulatedProcessor.vmread, if_pos (by simpa using current)]
    rw [show (hardware.answer (.vmread field) s).1 = .error .invalid from failed]
    trivial

theorem NmiWindow.setExiting_eq (enabled : Bool) :
    NmiWindow.setExiting enabled = Vmcs.read .primaryControls >>= fun word =>
      VmxControl.writeExact .primary (NmiWindow.update enabled (word.setWidth 32)) := by
  rw [NmiWindow.setExiting, VmxControl.read, bind_assoc]
  rfl

/-- **NMI-window exiting is turned on or off within the bounds**: the word that is written was read
from a processor related to the one at the start, so its other bits are still right. -/
theorem NmiWindow.setExiting_guarantees (allowed : ∀ before, scope.window.Allows before enabled) :
    (NmiWindow.setExiting enabled).run.Guarantees hardware (Confined scope) base := by
  rw [setExiting_eq]
  exact Vmcs.read_bind_guarantees fun s related =>
    VmxControl.writeExact_guarantees related.others allowed

end Window

end VtxMonitor
