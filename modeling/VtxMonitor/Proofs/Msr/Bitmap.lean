import VtxMonitor.Msr.Bitmap

/-!
# Proofs/Msr/Bitmap — a hook concerns one MSR and one kind of access

**Hooking an access makes that access exit and changes no other** (`isHooked_hook`): the two ranges
and the two kinds of access have quarters of their own, and within a range the position tells the
MSRs apart.  Hence a list of intercepts, however ordered and however often it names an MSR, hooks
what it names and nothing else (`isHooked_apply`).
-/

namespace VtxMonitor

/-! ## The two ranges -/

/-- The MSRs that lie beyond both ranges. -/
def Msr.Uncovered (msr : Msr.Number) : Prop :=
  0x1fff < msr.toNat ∧ (msr.toNat < 0xc0000000 ∨ 0xc0001fff < msr.toNat)

theorem MsrRange.of?_eq_none {msr : Msr.Number} :
    MsrRange.of? msr = none ↔ Msr.Uncovered msr := by
  rw [Msr.Uncovered]
  unfold MsrRange.of?
  split
  · next low => exact ⟨nofun, fun outside => by omega⟩
  · next beyond =>
      split
      · next high => exact ⟨nofun, fun outside => by omega⟩
      · next outside => exact ⟨fun _ => by omega, fun _ => rfl⟩

/-- The first MSR of a range. -/
def MsrRange.first : MsrRange → Nat
  | .low => 0
  | .high => 0xc0000000

/-- An MSR is its position behind the first MSR of its range. -/
theorem MsrRange.toNat_of_some {msr : Msr.Number} {range : MsrRange}
    (h : MsrRange.of? msr = some range) : msr.toNat = range.first + MsrBitmap.position msr := by
  unfold MsrRange.of? at h
  rw [MsrBitmap.position]
  split at h
  · obtain rfl := Option.some.inj h
    rw [first]
    omega
  · split at h
    · obtain rfl := Option.some.inj h
      rw [first]
      omega
    · exact nomatch h

/-- Within a range the position tells the MSRs apart. -/
theorem MsrRange.position_inj {msr msr' : Msr.Number} {range : MsrRange}
    (h : MsrRange.of? msr = some range) (h' : MsrRange.of? msr' = some range) :
    MsrBitmap.position msr = MsrBitmap.position msr' ↔ msr = msr' := by
  refine ⟨fun same => BitVec.eq_of_toNat_eq ?_, fun same => same ▸ rfl⟩
  rw [toNat_of_some h, toNat_of_some h', same]

namespace MsrBitmap

/-! ## Single hooks -/

theorem position_lt (msr : Msr.Number) : position msr < 0x2000 := Nat.mod_lt _ (by decide)

/-- The bit that a hook sets. -/
theorem natCast_one_shiftLeft (w i : Nat) : ((1 <<< i : Nat) : BitVec w) = .twoPow w i := by
  apply BitVec.eq_of_toNat_eq
  rw [BitVec.natCast_eq_ofNat, BitVec.toNat_ofNat, Nat.one_shiftLeft, BitVec.toNat_twoPow]

/-- The four quarters are independent. -/
theorem quarter_setQuarter (bitmap : MsrBitmap) (bits : BitVec 0x2000)
    (access access' : MsrAccess) (range range' : MsrRange) :
    (bitmap.setQuarter bits access range).quarter access' range'
      = if access' = access ∧ range' = range then bits else bitmap.quarter access' range' := by
  cases access <;> cases access' <;> cases range <;> cases range' <;> rfl

theorem isHooked_of_none (bitmap : MsrBitmap) (access : MsrAccess) {msr : Msr.Number}
    (outside : MsrRange.of? msr = none) : bitmap.isHooked access msr = true := by
  rw [isHooked, outside]

theorem isHooked_of_some (bitmap : MsrBitmap) (access : MsrAccess) {msr : Msr.Number}
    {range : MsrRange} (covered : MsrRange.of? msr = some range) :
    bitmap.isHooked access msr = (bitmap.quarter access range).getLsbD (position msr) := by
  rw [isHooked, covered]

/-- **A hook makes one kind of access to one MSR exit**, and nothing else. -/
theorem isHooked_hook (bitmap : MsrBitmap) (access access' : MsrAccess)
    (msr msr' : Msr.Number) :
    (bitmap.hook access msr).isHooked access' msr' = true
      ↔ bitmap.isHooked access' msr' = true ∨ (access', msr') = (access, msr) := by
  cases covered' : MsrRange.of? msr' with
  | none => simp only [isHooked_of_none _ access' covered', true_or]
  | some range' =>
      rw [isHooked_of_some _ access' covered', isHooked_of_some _ access' covered', hook]
      cases covered : MsrRange.of? msr with
      | none =>
          have other : msr' ≠ msr := by
            rintro rfl
            exact nomatch covered.symm.trans covered'
          simp [other]
      | some range =>
          dsimp only
          rw [quarter_setQuarter]
          by_cases here : access' = access ∧ range' = range
          · obtain ⟨rfl, rfl⟩ := here
            have same : (access', msr') = (access', msr) ↔ position msr = position msr' := by
              rw [Prod.mk.injEq, MsrRange.position_inj covered covered', eq_comm (a := msr)]
              exact and_iff_right rfl
            rw [if_pos ⟨rfl, rfl⟩, BitVec.getLsbD_or, natCast_one_shiftLeft,
              BitVec.getLsbD_twoPow, decide_eq_true (position_lt msr), Bool.true_and,
              Bool.or_eq_true, decide_eq_true_iff, same]
          · have other : (access', msr') ≠ (access, msr) := by
              rintro same
              obtain ⟨rfl, rfl⟩ := Prod.mk.inj same
              exact here ⟨rfl, Option.some.inj (covered'.symm.trans covered)⟩
            rw [if_neg here]
            simp only [other, or_false]

/-- In the bitmap that lets every covered access pass, the accesses beyond the ranges exit. -/
theorem isHooked_empty (access : MsrAccess) (msr : Msr.Number) :
    empty.isHooked access msr = true ↔ Msr.Uncovered msr := by
  rw [← MsrRange.of?_eq_none]
  cases covered : MsrRange.of? msr with
  | none => simp [isHooked_of_none _ access covered]
  | some range =>
      have clear : (empty.quarter access range).getLsbD (position msr) = false := by
        cases access <;> cases range <;> exact BitVec.getLsbD_zero
      simp [isHooked_of_some _ access covered, clear]

/-! ## Lists of hooks -/

/-- Hooks one after the other. -/
theorem isHooked_foldl_hook (accesses : List (MsrAccess × Msr.Number)) (bitmap : MsrBitmap)
    (access : MsrAccess) (msr : Msr.Number) :
    (accesses.foldl (fun bitmap access => bitmap.hook access.1 access.2) bitmap).isHooked access msr
        = true
      ↔ bitmap.isHooked access msr = true ∨ (access, msr) ∈ accesses := by
  induction accesses generalizing bitmap with
  | nil => simp
  | cons first rest ih =>
      rw [List.foldl_cons, ih, isHooked_hook, List.mem_cons, or_assoc]

end MsrBitmap

namespace MsrIntercepts

/-- The MSRs of which one kind of access is intercepted. -/
def of (intercepts : MsrIntercepts) : MsrAccess → List Msr.Number
  | .read => intercepts.reads
  | .write => intercepts.writes

theorem mem_accesses {intercepts : MsrIntercepts} {access : MsrAccess} {msr : Msr.Number} :
    (access, msr) ∈ intercepts.accesses ↔ msr ∈ intercepts.of access := by
  cases access <;> simp [accesses, of]

/-- **Intercepts hook what they name and nothing else**, in whatever order and however often they
name it. -/
theorem isHooked_apply (intercepts : MsrIntercepts) (bitmap : MsrBitmap) (access : MsrAccess)
    (msr : Msr.Number) :
    (intercepts.apply bitmap).isHooked access msr = true
      ↔ bitmap.isHooked access msr = true ∨ msr ∈ intercepts.of access := by
  rw [apply, MsrBitmap.isHooked_foldl_hook, mem_accesses]

end MsrIntercepts

end VtxMonitor
