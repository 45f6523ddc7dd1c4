import VtxMonitor.Control.Writer
import VtxMonitor.Proofs.Processor.Execution

/-!
# Proofs/Control/Settings — what a processor allows for a control word

A processor reports for each control word which bits must be 1 and which may be 1, in one of two
MSRs (`Hardware.capability`).  Where every mandatory bit is an allowed one, an adjusted word is
permitted (`AllowedSettings.permits_adjust`) and **honours what is reported**: it has every
requested bit that is allowed and, besides these, nothing but mandatory bits
(`CapabilityHonoured.adjust`).
-/

namespace VtxMonitor

/-! ## Adjusted words -/

section Bits

variable {w : Nat} {x y : BitVec w}

/-- A word covers another one exactly if it has all of its bits. -/
theorem and_eq_right_iff_bits :
    x &&& y = y ↔ ∀ i, y.getLsbD i = true → x.getLsbD i = true := by
  constructor
  · intro covers i set
    rw [← covers, BitVec.getLsbD_and, Bool.and_eq_true] at set
    exact set.1
  · intro covers
    refine BitVec.eq_of_getLsbD_eq fun i _ => ?_
    rw [BitVec.getLsbD_and]
    cases set : y.getLsbD i with
    | false => exact Bool.and_false _
    | true => rw [covers i set, Bool.and_true]

/-- A word has no bit outside of another one exactly if that one has all of its bits. -/
theorem and_not_eq_zero_iff_bits :
    x &&& ~~~y = 0 ↔ ∀ i, x.getLsbD i = true → y.getLsbD i = true := by
  constructor
  · intro outside i set
    have inside : i < w := BitVec.lt_of_getLsbD set
    have bit : (x &&& ~~~y).getLsbD i = false := by
      rw [outside]
      exact BitVec.getLsbD_zero
    rw [BitVec.getLsbD_and, BitVec.getLsbD_not, set, decide_eq_true inside, Bool.true_and,
      Bool.true_and, Bool.not_eq_false'] at bit
    exact bit
  · intro covered
    refine BitVec.eq_of_getLsbD_eq fun i _ => ?_
    rw [BitVec.getLsbD_and, BitVec.getLsbD_not]
    cases set : x.getLsbD i with
    | false => exact BitVec.getLsbD_zero.symm
    | true =>
        rw [covered i set, Bool.not_true, Bool.and_false, Bool.and_false]
        exact BitVec.getLsbD_zero.symm

end Bits

namespace AllowedSettings

variable {settings : AllowedSettings}

/-- Every mandatory bit is an allowed one. -/
def Consistent (settings : AllowedSettings) : Prop :=
  settings.allowed0 &&& ~~~settings.allowed1 = 0

instance (settings : AllowedSettings) : Decidable settings.Consistent :=
  inferInstanceAs (Decidable (_ = _))

theorem Consistent.allowed (consistent : settings.Consistent) {i : Nat}
    (mandatory : settings.allowed0.getLsbD i = true) : settings.allowed1.getLsbD i = true :=
  and_not_eq_zero_iff_bits.1 consistent i mandatory

theorem permits_iff {value : BitVec 32} :
    settings.permits value = true ↔
      (∀ i, settings.allowed0.getLsbD i = true → value.getLsbD i = true) ∧
        ∀ i, value.getLsbD i = true → settings.allowed1.getLsbD i = true := by
  rw [permits, Bool.and_eq_true, beq_iff_eq, beq_iff_eq, and_eq_right_iff_bits,
    and_not_eq_zero_iff_bits]

theorem getLsbD_adjust (settings : AllowedSettings) (requested : BitVec 32) (i : Nat) :
    (settings.adjust requested).getLsbD i
      = ((requested.getLsbD i || settings.allowed0.getLsbD i) && settings.allowed1.getLsbD i) := by
  rw [adjust, BitVec.getLsbD_and, BitVec.getLsbD_or]

/-- Where the settings are consistent, an adjusted word is permitted. -/
theorem permits_adjust (consistent : settings.Consistent) (requested : BitVec 32) :
    settings.permits (settings.adjust requested) = true := by
  refine permits_iff.2 ⟨fun i mandatory => ?_, fun i set => ?_⟩
  · rw [getLsbD_adjust, mandatory, consistent.allowed mandatory, Bool.or_true, Bool.and_true]
  · rw [getLsbD_adjust, Bool.and_eq_true] at set
    exact set.2

end AllowedSettings

/-! ## Capabilities -/

/-- Every mandatory bit of a capability, in its low half, is an allowed one, in its high half. -/
def CapabilityConsistent (capability : Word) : Prop :=
  ∀ i < 32, capability.getLsbD i = true → capability.getLsbD (32 + i) = true

instance (capability : Word) : Decidable (CapabilityConsistent capability) :=
  inferInstanceAs (Decidable (∀ i < 32, _ → _))

/-- A control word honours a capability, of which the low half has the mandatory bits and the high
half the allowed ones: it has every mandatory bit and none that is not allowed, a bit asked for
exactly if it is allowed, and any other bit only if it is mandatory. -/
structure CapabilityHonoured (capability : Word) (asked : List Nat) (word : Word) : Prop where
  narrow : ∀ i, 32 ≤ i → word.getLsbD i = false
  mandatory : ∀ i < 32, capability.getLsbD i = true → word.getLsbD i = true
  allowed : ∀ i < 32, word.getLsbD i = true → capability.getLsbD (32 + i) = true
  grants : ∀ i ∈ asked, (word.getLsbD i = true ↔ capability.getLsbD (32 + i) = true)
  added : ∀ i < 32, i ∉ asked → word.getLsbD i = true → capability.getLsbD i = true

/-- **An adjusted word honours the capability that it is adjusted to.** -/
theorem CapabilityHonoured.adjust {capability : Word} {asked : List Nat} {requested : BitVec 32}
    (consistent : CapabilityConsistent capability)
    (requests : ∀ i, requested.getLsbD i = true ↔ i ∈ asked) :
    let settings : AllowedSettings :=
      ⟨capability.extractLsb' 0 32, capability.extractLsb' 32 32⟩
    CapabilityHonoured capability asked ((settings.adjust requested).setWidth 64) := by
  intro settings
  have bit : ∀ i < 32, (((settings.adjust requested).setWidth 64).getLsbD i = true ↔
      (i ∈ asked ∨ capability.getLsbD i = true) ∧ capability.getLsbD (32 + i) = true) := by
    intro i inside
    have wide : i < 64 := Nat.lt_trans inside (by decide)
    rw [BitVec.getLsbD_setWidth, AllowedSettings.getLsbD_adjust, BitVec.getLsbD_extractLsb',
      BitVec.getLsbD_extractLsb', decide_eq_true inside, decide_eq_true wide, Nat.zero_add,
      Bool.true_and, Bool.true_and, Bool.true_and, Bool.and_eq_true, Bool.or_eq_true, requests]
  have narrow : ∀ i ∈ asked, i < 32 := fun i mem => BitVec.lt_of_getLsbD ((requests i).2 mem)
  exact {
    narrow := fun i outside => by
      rw [BitVec.getLsbD_setWidth, BitVec.getLsbD_of_ge _ i outside, Bool.and_false]
    mandatory := fun i inside set => (bit i inside).2 ⟨.inr set, consistent i inside set⟩
    allowed := fun i inside set => ((bit i inside).1 set).2
    grants := fun i mem => (bit i (narrow i mem)).trans ⟨And.right, fun set => ⟨.inl mem, set⟩⟩
    added := fun i inside other set => ((bit i inside).1 set).1.resolve_left other }

namespace Hardware

variable {σ : Type} (hw : Hardware σ) (s : σ)

/-- The content of an MSR. -/
def msr (number : Msr.Number) : Word := (hw.answer (.readMsr number) s).1

/-- The content of the one of two MSRs that is in force: bit 55 of IA32_VMX_BASIC tells whether that
is the one that reports no default bits. -/
def msrInForce (withDefaults withoutDefaults : Msr.Number) : Word :=
  hw.msr s (if (hw.msr s 0x480).getLsbD 55 then withoutDefaults else withDefaults)

/-- What a processor reports for a control word.  The secondary controls have one MSR only. -/
def capability : VmxControl → Word
  | .pinBased => hw.msrInForce s 0x481 0x48d
  | .primary => hw.msrInForce s 0x482 0x48e
  | .secondary => hw.msr s 0x48b
  | .exit => hw.msrInForce s 0x483 0x48f
  | .entry => hw.msrInForce s 0x484 0x490

/-- The settings that a processor allows for a control word: the low half of what it reports are the
mandatory bits, the high half the allowed ones. -/
def allowedSettings (control : VmxControl) : AllowedSettings where
  allowed0 := (hw.capability s control).extractLsb' 0 32
  allowed1 := (hw.capability s control).extractLsb' 32 32

/-- The monitor looks for a capability where the processor reports it. -/
theorem msr_capabilityMsr (control : VmxControl) :
    hw.msr s (control.capabilityMsr (VmxBasic.mk (hw.msr s Msr.vmxBasic)).trueControls)
      = hw.capability s control := by
  have inForce : (VmxBasic.mk (hw.msr s Msr.vmxBasic)).trueControls = (hw.msr s 0x480).getLsbD 55 :=
    rfl
  rw [inForce]
  cases control <;> cases h : (hw.msr s 0x480).getLsbD 55 <;>
    simp only [capability, msrInForce, h] <;> rfl

end Hardware

end VtxMonitor
