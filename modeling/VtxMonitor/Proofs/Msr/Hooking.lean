import VtxMonitor.Host.Preparation
import VtxMonitor.Proofs.Msr.Bitmap

/-!
# Proofs/Msr/Hooking — a bitmap is the set of what was hooked since it was last cleared

A `BitmapStep` clears a bitmap or hooks accesses in it.  **After any steps an access exits exactly
if it lies beyond the ranges, was hooked after the last clear, or had its bit set from the start
with no clear since** (`isHooked_performAll`).  Whatever a step does not name it leaves alone, and
as a bitmap is known by the accesses it makes exit (`MsrBitmap.eq_of_isHooked`), intercepts that
name the same accesses leave the same bitmap (`bitmap_holds_hooked_set`).
-/

namespace VtxMonitor

/-! ## Bits of a bitmap -/

namespace MsrRange

/-- The MSR at a position of a range. -/
def msr (range : MsrRange) (position : Nat) : Msr.Number := BitVec.ofNat 32 (range.first + position)

variable {range : MsrRange} {i : Nat} (inside : i < 0x2000)
include inside

theorem toNat_msr : (range.msr i).toNat = range.first + i := by
  have fits : range.first + i < 2 ^ 32 := by
    cases range <;> rw [first] <;> omega
  rw [msr, BitVec.toNat_ofNat, Nat.mod_eq_of_lt fits]

theorem of?_msr : MsrRange.of? (range.msr i) = some range := by
  have number : (range.msr i).toNat = range.first + i := toNat_msr inside
  unfold MsrRange.of?
  cases range with
  | low =>
      rw [first] at number
      exact if_pos (by omega)
  | high =>
      rw [first] at number
      rw [if_neg (by omega), if_pos (by omega)]

theorem position_msr : MsrBitmap.position (range.msr i) = i := by
  have covered : MsrRange.of? (range.msr i) = some range := of?_msr inside
  have number := toNat_of_some covered
  rw [toNat_msr inside] at number
  omega

end MsrRange

namespace MsrBitmap

/-- The bit that a bitmap has for an access; beyond the ranges there is none. -/
def bit (bitmap : MsrBitmap) (access : MsrAccess) (msr : Msr.Number) : Bool :=
  match MsrRange.of? msr with
  | none => false
  | some range => (byte (bitmap.quarter access range) (position msr / 8)).getLsbD (position msr % 8)

theorem getLsbD_byte (bits : BitVec 0x2000) (i : Nat) :
    (byte bits (i / 8)).getLsbD (i % 8) = bits.getLsbD i := by
  have inByte : i % 8 < 8 := Nat.mod_lt _ (by omega)
  rw [byte, BitVec.getLsbD_extractLsb', decide_eq_true inByte, Bool.true_and, Nat.div_add_mod]

/-- An access exits if it lies beyond the ranges or its bit is set. -/
theorem isHooked_iff_bit (bitmap : MsrBitmap) (access : MsrAccess) (msr : Msr.Number) :
    bitmap.isHooked access msr = true ↔ Msr.Uncovered msr ∨ bitmap.bit access msr = true := by
  rw [← MsrRange.of?_eq_none, bit]
  cases covered : MsrRange.of? msr with
  | none => exact iff_of_true (bitmap.isHooked_of_none access covered) (.inl rfl)
  | some range =>
      rw [bitmap.isHooked_of_some access covered]
      dsimp only
      rw [getLsbD_byte]
      exact ⟨.inr, fun h => h.resolve_left nofun⟩

/-- **A bitmap is known by the accesses that it makes exit.** -/
theorem eq_of_isHooked {bitmap bitmap' : MsrBitmap}
    (same : ∀ access msr, bitmap.isHooked access msr = bitmap'.isHooked access msr) :
    bitmap = bitmap' := by
  have quarters : ∀ access range, bitmap.quarter access range = bitmap'.quarter access range := by
    intro access range
    ext i inside
    have here := same access (range.msr i)
    rw [isHooked_of_some _ access (MsrRange.of?_msr inside),
      isHooked_of_some _ access (MsrRange.of?_msr inside), MsrRange.position_msr inside] at here
    exact here
  obtain ⟨readLow, readHigh, writeLow, writeHigh⟩ := bitmap
  obtain rfl : readLow = bitmap'.readLow := quarters .read .low
  obtain rfl : readHigh = bitmap'.readHigh := quarters .read .high
  obtain rfl : writeLow = bitmap'.writeLow := quarters .write .low
  obtain rfl : writeHigh = bitmap'.writeHigh := quarters .write .high
  rfl

end MsrBitmap

/-! ## Single steps -/

/-- Something that is done to a bitmap. -/
inductive BitmapStep where
  | clear
  | hook (access : MsrAccess) (msr : Msr.Number)
  /-- Hooks reading and writing of an MSR. -/
  | hookBoth (msr : Msr.Number)
  | apply (intercepts : MsrIntercepts)

namespace BitmapStep

/-- The accesses that a step hooks. -/
def hooks : BitmapStep → List (MsrAccess × Msr.Number)
  | .clear => []
  | .hook access msr => [(access, msr)]
  | .hookBoth msr => [(.read, msr), (.write, msr)]
  | .apply ⟨reads, writes⟩ => reads.map (.read, ·) ++ writes.map (.write, ·)

/-- A step together with the warnings about MSRs outside the bitmap. -/
def perform (bitmap : MsrBitmap) : BitmapStep → Program MsrBitmap
  | .clear => return .empty
  | .hook access msr => bitmap.install access msr
  | .hookBoth msr => do (← bitmap.install .read msr).install .write msr
  | .apply intercepts => intercepts.install bitmap

/-- Steps in order. -/
def performAll (bitmap : MsrBitmap) (steps : List BitmapStep) : Program MsrBitmap :=
  steps.foldlM perform bitmap

variable {σ : Type} (hw : Hardware σ)

/-- The warning leaves the hook as it is. -/
theorem run_install_fst (bitmap : MsrBitmap) (access : MsrAccess) (msr : Msr.Number) (s : σ) :
    (hw.run (bitmap.install access msr) s).1 = bitmap.hook access msr := by
  rw [MsrBitmap.install]
  split <;> rfl

/-- **A step other than a clear adds what it hooks** to what a bitmap holds. -/
theorem run_perform_fst (bitmap : MsrBitmap) {step : BitmapStep} (other : step ≠ .clear) (s : σ) :
    (hw.run (perform bitmap step) s).1
      = step.hooks.foldl (fun bitmap access => bitmap.hook access.1 access.2) bitmap := by
  cases step with
  | clear => exact absurd rfl other
  | hook access msr => exact run_install_fst hw bitmap access msr s
  | hookBoth msr =>
      rw [perform, Hardware.run_bind, run_install_fst, run_install_fst]
      rfl
  | apply intercepts =>
      rw [perform, MsrIntercepts.install, Hardware.run_bind]
      rfl

/-- What exits after one step. -/
theorem isHooked_perform (bitmap : MsrBitmap) (step : BitmapStep) (s : σ) (access : MsrAccess)
    (msr : Msr.Number) :
    (hw.run (perform bitmap step) s).1.isHooked access msr = true
      ↔ Msr.Uncovered msr ∨ (access, msr) ∈ step.hooks ∨
        (step ≠ .clear ∧ bitmap.isHooked access msr = true) := by
  by_cases clears : step = .clear
  · subst clears
    have emptied : (hw.run (perform bitmap .clear) s).1.isHooked access msr = true ↔ _ :=
      MsrBitmap.isHooked_empty access msr
    rw [emptied]
    exact ⟨.inl, fun h => h.elim id fun h => h.elim nofun fun h => absurd rfl h.1⟩
  · have beyond := fun outside => (bitmap.isHooked_iff_bit access msr).2 (.inl outside)
    rw [run_perform_fst hw bitmap clears, MsrBitmap.isHooked_foldl_hook]
    constructor
    · rintro (before | hooked)
      · exact .inr (.inr ⟨clears, before⟩)
      · exact .inr (.inl hooked)
    · rintro (outside | hooked | ⟨-, before⟩)
      · exact .inl (beyond outside)
      · exact .inr hooked
      · exact .inl before

/-- **A step leaves the accesses alone that it does not hook**, be it the other access to an MSR,
another MSR or one of the other range. -/
theorem isHooked_perform_of_notMem (bitmap : MsrBitmap) {step : BitmapStep}
    (other : step ≠ .clear) (s : σ) {access : MsrAccess} {msr : Msr.Number}
    (unnamed : (access, msr) ∉ step.hooks) :
    (hw.run (perform bitmap step) s).1.isHooked access msr = bitmap.isHooked access msr := by
  rw [Bool.eq_iff_iff, run_perform_fst hw bitmap other, MsrBitmap.isHooked_foldl_hook]
  exact or_iff_left unnamed

/-- **The order of intercepts and their repetition do not matter.** -/
theorem run_install_congr {intercepts intercepts' : MsrIntercepts}
    (same : ∀ access msr, msr ∈ intercepts.of access ↔ msr ∈ intercepts'.of access)
    (bitmap : MsrBitmap) (s : σ) :
    (hw.run (perform bitmap (.apply intercepts)) s).1
      = (hw.run (perform bitmap (.apply intercepts')) s).1 := by
  refine MsrBitmap.eq_of_isHooked fun access msr => ?_
  have applied : ∀ intercepts : MsrIntercepts,
      (hw.run (perform bitmap (.apply intercepts)) s).1 = intercepts.apply bitmap := by
    intro intercepts
    have other : BitmapStep.apply intercepts ≠ .clear := nofun
    exact run_perform_fst hw bitmap other s
  rw [applied, applied, Bool.eq_iff_iff, MsrIntercepts.isHooked_apply,
    MsrIntercepts.isHooked_apply, same access msr]

/-! ## Steps in order -/

/-- An access is hooked by a step behind which nothing is cleared. -/
def HookedSinceClear (steps : List BitmapStep) (access : MsrAccess) (msr : Msr.Number) : Prop :=
  ∃ before step after,
    steps = before ++ step :: after ∧ (access, msr) ∈ step.hooks ∧ .clear ∉ after

theorem not_hookedSinceClear_nil (access : MsrAccess) (msr : Msr.Number) :
    ¬ HookedSinceClear [] access msr := by
  rintro ⟨before, step, after, split, -⟩
  simp at split

theorem hookedSinceClear_cons {step : BitmapStep} {steps : List BitmapStep} {access : MsrAccess}
    {msr : Msr.Number} :
    HookedSinceClear (step :: steps) access msr
      ↔ HookedSinceClear steps access msr ∨ ((access, msr) ∈ step.hooks ∧ .clear ∉ steps) := by
  constructor
  · rintro ⟨_ | ⟨first, before⟩, later, after, split, hooked, kept⟩
    · obtain ⟨rfl, rfl⟩ := List.cons.inj split
      exact .inr ⟨hooked, kept⟩
    · obtain ⟨-, rest⟩ := List.cons.inj split
      exact .inl ⟨before, later, after, rest, hooked, kept⟩
  · rintro (⟨before, later, after, rfl, hooked, kept⟩ | ⟨hooked, kept⟩)
    · exact ⟨step :: before, later, after, rfl, hooked, kept⟩
    · exact ⟨[], step, steps, rfl, hooked, kept⟩

theorem run_performAll_cons (step : BitmapStep) (steps : List BitmapStep) (bitmap : MsrBitmap)
    (s : σ) :
    hw.run (performAll bitmap (step :: steps)) s
      = hw.run (performAll (hw.run (perform bitmap step) s).1 steps)
          (hw.run (perform bitmap step) s).2 := by
  rw [performAll, List.foldlM_cons, Hardware.run_bind]
  rfl

/-- **What exits after steps in order**: what was hooked since the last clear, and without a clear
what the bitmap held at first. -/
theorem isHooked_performAll (steps : List BitmapStep) (bitmap : MsrBitmap) (s : σ)
    (access : MsrAccess) (msr : Msr.Number) :
    (hw.run (performAll bitmap steps) s).1.isHooked access msr = true
      ↔ Msr.Uncovered msr ∨ HookedSinceClear steps access msr ∨
        (.clear ∉ steps ∧ bitmap.isHooked access msr = true) := by
  induction steps generalizing bitmap s with
  | nil =>
      have beyond := fun outside => (bitmap.isHooked_iff_bit access msr).2 (.inl outside)
      have never := not_hookedSinceClear_nil access msr
      constructor
      · exact fun hooked => .inr (.inr ⟨List.not_mem_nil, hooked⟩)
      · rintro (outside | hooked | ⟨-, hooked⟩)
        · exact beyond outside
        · exact absurd hooked never
        · exact hooked
  | cons step rest ih =>
      have kept : .clear ∉ step :: rest ↔ step ≠ .clear ∧ .clear ∉ rest := by
        rw [List.mem_cons, not_or, ne_comm]
      rw [run_performAll_cons, ih, isHooked_perform, hookedSinceClear_cons, kept]
      grind

end BitmapStep

open BitmapStep in
/-- **A bitmap holds the set of what was hooked.**  After any steps an access exits if it lies
beyond the ranges, was hooked since the last clear, or had its bit set at first and no step
cleared; a step that hooks leaves everything alone that it does not name; and of intercepts only
matters what they name. -/
theorem bitmap_holds_hooked_set {σ : Type} (hw : Hardware σ) (s : σ) (bitmap : MsrBitmap)
    (steps : List BitmapStep) :
    (∀ access msr,
      (hw.run (performAll bitmap steps) s).1.isHooked access msr = true
        ↔ Msr.Uncovered msr ∨ HookedSinceClear steps access msr ∨
          (.clear ∉ steps ∧ bitmap.bit access msr = true)) ∧
      (∀ step access msr, step ≠ .clear → (access, msr) ∉ step.hooks →
        (hw.run (perform bitmap step) s).1.isHooked access msr = bitmap.isHooked access msr) ∧
      (∀ intercepts intercepts' : MsrIntercepts,
        (∀ access msr, msr ∈ intercepts.of access ↔ msr ∈ intercepts'.of access) →
          (hw.run (perform bitmap (.apply intercepts)) s).1
            = (hw.run (perform bitmap (.apply intercepts')) s).1) := by
  refine ⟨fun access msr => ?_, fun step access msr other unnamed => ?_,
    fun intercepts intercepts' same => ?_⟩
  · rw [isHooked_performAll, MsrBitmap.isHooked_iff_bit]
    grind
  · exact isHooked_perform_of_notMem hw bitmap other s unnamed
  · exact run_install_congr hw same bitmap s

end VtxMonitor
