import VtxMonitor.Proofs.Processor.Steps
import VtxMonitor.Segment.Load

/-!
# Proofs/Segment/Decoding — a selector decodes to what the bits of its descriptor say

A look-up gives the unusable segment or describes an entry of the table (`Segment.ofTable_id`).  The
access rights are the descriptor's bits 55:40 with four of them cleared
(`SegmentDescriptor.getLsbD_accessRights`), so that each of their fields is the field of that name
in the descriptor, and the limit counts bytes or whole pages (`SegmentDescriptor.toNat_limit`).
With this, **a segment is read off bit ranges of the table, for every selector, limit and content**
(`Segment.ofTable_decodes`).
-/

namespace VtxMonitor

/-! ## The parts of a descriptor -/

namespace SegmentDescriptor

variable (d : SegmentDescriptor)

/-- **The access rights are bits 55:40 of the descriptor without the bits that hold its limit.** -/
theorem getLsbD_accessRights (i : Nat) :
    d.accessRights.bits.getLsbD i
      = (decide (i < 8 ∨ 12 ≤ i ∧ i < 16) && d.bits.getLsbD (40 + i)) := by
  simp only [accessRights, BitVec.getLsbD_setWidth, BitVec.getLsbD_append, BitVec.getLsbD_zero,
    BitVec.getLsbD_extractLsb']
  -- The three parts of the word: the low byte, the cleared bits, and the rest.
  rcases Nat.lt_or_ge i 8 with low | above
  · simp [low, show i < 12 by omega, show i < 32 by omega]
  rcases Nat.lt_or_ge i 12 with reserved | high
  · simp [show ¬i < 8 by omega, show ¬12 ≤ i by omega, reserved]
  · have moved : 52 + (i - 12) = 40 + i := by omega
    have inside : (decide (i < 32) && decide (i - 12 < 4)) = decide (i < 16) := by
      rw [← Bool.decide_and]
      exact decide_eq_decide.2 (by omega)
    simp only [moved, show ¬i < 8 by omega, show ¬i < 12 by omega, high, if_false, false_or,
      true_and, ← inside, Bool.and_assoc]

/-- A field of the access rights lies 40 bits higher in the descriptor. -/
theorem extractLsb'_accessRights (low width : Nat)
    (inside : low + width ≤ 8 ∨ 12 ≤ low ∧ low + width ≤ 16) :
    d.accessRights.bits.extractLsb' low width = d.bits.extractLsb' (40 + low) width := by
  ext i below
  have kept : low + i < 8 ∨ 12 ≤ low + i ∧ low + i < 16 := by omega
  rw [BitVec.getElem_extractLsb', BitVec.getElem_extractLsb', getLsbD_accessRights,
    decide_eq_true kept, Bool.true_and, Nat.add_assoc]

/-- No other bit is set in the access rights. -/
theorem extractLsb'_accessRights_eq_zero (low width : Nat)
    (outside : 8 ≤ low ∧ low + width ≤ 12 ∨ 16 ≤ low) :
    d.accessRights.bits.extractLsb' low width = 0 := by
  ext i below
  have cleared : ¬(low + i < 8 ∨ 12 ≤ low + i ∧ low + i < 16) := by omega
  rw [BitVec.getElem_extractLsb', getLsbD_accessRights, decide_eq_false cleared, Bool.false_and,
    BitVec.ofNat_eq_ofNat, BitVec.getElem_zero]

/-- **The limit counts bytes, or pages of 4 KiB and then reaches to the end of the last one.** -/
theorem toNat_limit :
    d.limit.toNat = if d.granularity then (d.limitHigh ++ d.limitLow).toNat * 4096 + 4095
      else (d.limitHigh ++ d.limitLow).toNat := by
  have bound := (d.limitHigh ++ d.limitLow).isLt
  rw [limit]
  split
  · have page : (0xfff#12).toNat < 2 ^ 12 := (0xfff#12).isLt
    rw [BitVec.toNat_append, ← Nat.shiftLeft_add_eq_or_of_lt page, Nat.shiftLeft_eq]
    rfl
  · rw [BitVec.toNat_setWidth, Nat.mod_eq_of_lt (by omega)]

end SegmentDescriptor

namespace Segment

/-! ## Looking a selector up -/

section

variable (selector limit : BitVec 16) (entry : BitVec 16 → Word)

/-- A selector names no usable segment if its index is zero, if it means a local table, or if the
entry does not end within the limit. -/
theorem refused_iff :
    (isNull selector || isBeyond selector limit) = true ↔
      index selector = 0 ∨ selector.getLsbD 2 = true ∨
        limit.toNat < 8 * (index selector).toNat + 7 := by
  have ends : fits limit (index selector) 0 = false ↔
      limit.toNat < 8 * (index selector).toNat + 7 := by
    rw [fits, decide_eq_false_iff_not, Nat.not_le]
  have absorbed : ∀ null beyond : Bool,
      (null || !null && beyond) = true ↔ null = true ∨ beyond = true := by decide
  rw [isBeyond, absorbed, isNull, isLocal, Bool.or_eq_true, decide_eq_true_iff, or_assoc,
    Bool.not_eq_true', ends]

/-- The entry behind that of the selector belongs to it if the descriptor is a system descriptor
and that entry ends within the limit as well. -/
theorem wide_iff (low : Word) :
    (!(SegmentDescriptor.mk low).descriptorType && fits limit (index selector) 1) = true ↔
      low.getLsbD 44 = false ∧ 8 * (index selector).toNat + 15 ≤ limit.toNat := by
  rw [Bool.and_eq_true, Bool.not_eq_true', fits, decide_eq_true_iff, Nat.add_assoc]
  rfl

/-- **A look-up gives the unusable segment or describes an entry of the table.** -/
theorem ofTable_id :
    ofTable (m := Id) selector limit entry
      = if isNull selector || isBeyond selector limit then unusable selector
        else describedBy selector ⟨entry (index selector)⟩
          (if (entry (index selector)).getLsbD 44 = false ∧
              8 * (index selector).toNat + 15 ≤ limit.toNat then
            (entry (index selector + 1)).extractLsb 31 0 else 0) := by
  rw [ofTable_eq]
  split
  · rfl
  · simp only [← wide_iff]
    change (if _ then _ else _ : Segment) = describedBy _ _ (if _ then _ else _)
    split <;> rfl

end

section

variable {selector limit : BitVec 16} {entry : BitVec 16 → Word} {σ : Type} {hw : Hardware σ}
  {s : σ} {reader : BitVec 16 → Program Word}

/-- On hardware that reads the entries of a table, a look-up decodes that table. -/
theorem run_ofTable (reads : ∀ index, hw.run (reader index) s = (entry index, s)) :
    hw.run (ofTable selector limit reader) s = (ofTable (m := Id) selector limit entry, s) := by
  rw [ofTable_eq, ofTable_eq]
  split
  · rfl
  · rw [Hardware.run_bind, reads]
    change _ = ((if _ then _ else _ : Segment), s)
    split
    · rw [Hardware.run_bind, reads]
      rfl
    · rfl

/-- The same where the look-up reports a selector beyond the table. -/
theorem run_lookup (silent : ∀ diagnostic, (hw.answer (.report diagnostic) s).2 = s)
    (reads : ∀ index, hw.run (reader index) s = (entry index, s)) :
    hw.run (lookup selector limit reader) s = (ofTable (m := Id) selector limit entry, s) := by
  have reported : hw.run (Program.report (.selectorBeyondGdt selector)) s = ((), s) :=
    Prod.ext rfl (silent _)
  rw [lookup]
  split
  · rw [Hardware.run_bind, reported]
    exact run_ofTable reads
  · exact run_ofTable reads

/-- Where the entries are known, a look-up gives the same segment on all hardware. -/
theorem run_lookup_pure :
    (hw.run (lookup selector limit fun index => pure (entry index)) s).1
      = ofTable (m := Id) selector limit entry := by
  have decoded : ∀ s, (hw.run (ofTable selector limit fun index => pure (entry index)) s).1
      = ofTable (m := Id) selector limit entry := fun s =>
    congrArg Prod.fst (run_ofTable fun _ => rfl)
  rw [lookup]
  split
  · rw [Hardware.run_bind]
    exact decoded _
  · exact decoded s

end

/-! ## Entries within the limit -/

section

variable {selector limit : BitVec 16}

/-- Where two entries fit, the second one has the next index. -/
theorem toNat_index_succ (wide : fits limit (index selector) 1 = true) :
    8 * (index selector + 1).toNat + 7 ≤ limit.toNat := by
  have ends : 8 * (index selector).toNat + 8 * 1 + 7 ≤ limit.toNat := of_decide_eq_true wide
  have bound := limit.isLt
  rw [BitVec.toNat_add, Nat.mod_eq_of_lt] <;> simp <;> omega

/-- The entry of a selector that is not refused fits. -/
theorem toNat_index (usable : ¬(isNull selector || isBeyond selector limit) = true) :
    8 * (index selector).toNat + 7 ≤ limit.toNat := by
  rw [refused_iff, not_or, not_or, Nat.not_lt] at usable
  exact usable.2.2

/-- **Readers that agree on the entries within the limit lead to the same look-up**, whatever it is
to read an entry. -/
theorem ofTable_congr {m : Type → Type} [Monad m] {entry entry' : BitVec 16 → m Word}
    (agree : ∀ index, 8 * index.toNat + 7 ≤ limit.toNat → entry' index = entry index) :
    ofTable selector limit entry' = ofTable selector limit entry := by
  rw [ofTable_eq, ofTable_eq]
  split
  · rfl
  · next usable =>
      rw [agree _ (toNat_index usable)]
      refine congrArg (entry (index selector) >>= ·) (funext fun low => ?_)
      split
      · next wide => rw [agree _ (toNat_index_succ (Bool.and_eq_true _ _ ▸ wide).2)]
      · rfl

/-- What a look-up requests is bounded by what reading an entry within the limit requests. -/
theorem ofTable_only {P : Operation → Prop} {reader : BitVec 16 → Program Word}
    (inside : ∀ index, 8 * index.toNat + 7 ≤ limit.toNat → (reader index).Only P) :
    (ofTable selector limit reader).Only P := by
  rw [ofTable_eq]
  split
  · trivial
  · next usable =>
      refine (inside _ (toNat_index usable)).bind fun low => ?_
      split
      · next wide =>
          exact (inside _ (toNat_index_succ (Bool.and_eq_true _ _ ▸ wide).2)).bind fun _ => trivial
      · trivial

/-- The same where the look-up reports a selector beyond the table. -/
theorem lookup_only {P : Operation → Prop} {reader : BitVec 16 → Program Word}
    (reports : ∀ diagnostic, P (.report diagnostic))
    (inside : ∀ index, 8 * index.toNat + 7 ≤ limit.toNat → (reader index).Only P) :
    (lookup selector limit reader).Only P := by
  rw [lookup]
  split
  · exact ⟨reports _, fun _ => ofTable_only inside⟩
  · exact ofTable_only inside

end

/-! ## What a look-up gives -/

/-- A usable segment is what the bits of its descriptor say, with given bits 63:32 of the base. -/
structure Decodes (descriptor : Word) (upper : BitVec 32) (segment : Segment) : Prop where
  base : segment.base = upper ++ (descriptor.extractLsb 63 56 ++ descriptor.extractLsb 39 16)
  limit :
    let units := (descriptor.extractLsb 51 48 ++ descriptor.extractLsb 15 0).toNat
    segment.limit.toNat = if descriptor.getLsbD 55 then units * 4096 + 4095 else units
  segmentType : segment.accessRights.segmentType = (SegmentDescriptor.mk descriptor).segmentType
  descriptorType :
    segment.accessRights.descriptorType = (SegmentDescriptor.mk descriptor).descriptorType
  dpl : segment.accessRights.dpl = (SegmentDescriptor.mk descriptor).dpl
  present : segment.accessRights.present = (SegmentDescriptor.mk descriptor).present
  avl : segment.accessRights.avl = (SegmentDescriptor.mk descriptor).avl
  longMode : segment.accessRights.longMode = (SegmentDescriptor.mk descriptor).longMode
  defaultBig : segment.accessRights.defaultBig = (SegmentDescriptor.mk descriptor).defaultBig
  granularity : segment.accessRights.granularity = (SegmentDescriptor.mk descriptor).granularity
  /-- Bits 11:8 are reserved, and from bit 16 up nothing is set. -/
  reserved : segment.accessRights.bits.extractLsb 11 8 = 0
  rest : segment.accessRights.bits.extractLsb 31 16 = 0

/-- **What a look-up describes is what the bits of the descriptor say.** -/
theorem describedBy_decodes (selector : BitVec 16) (descriptor : Word) (upper : BitVec 32) :
    Decodes descriptor upper (describedBy selector ⟨descriptor⟩ upper) :=
  let d : SegmentDescriptor := ⟨descriptor⟩
  { base := rfl
    limit := d.toNat_limit
    segmentType := d.extractLsb'_accessRights 0 4 (by omega)
    descriptorType := d.getLsbD_accessRights 4
    dpl := d.extractLsb'_accessRights 5 2 (by omega)
    present := d.getLsbD_accessRights 7
    avl := d.getLsbD_accessRights 12
    longMode := d.getLsbD_accessRights 13
    defaultBig := d.getLsbD_accessRights 14
    granularity := d.getLsbD_accessRights 15
    reserved := d.extractLsb'_accessRights_eq_zero 8 4 (by omega)
    rest := d.extractLsb'_accessRights_eq_zero 16 16 (by omega) }

section

variable (selector limit : BitVec 16) (entry : BitVec 16 → Word)

/-- In the unusable segment only bit 16 of the access rights is set. -/
theorem unusable_eq : unusable selector = ⟨selector, 0, 0, ⟨0x10000⟩⟩ := by
  have rights : AccessRights.ofUnusable = ⟨0x10000⟩ := by decide
  rw [unusable, rights]

/-- A segment that is described by an entry is not the unusable one. -/
theorem describedBy_ne_unusable (descriptor : SegmentDescriptor) (upper : BitVec 32) :
    describedBy selector descriptor upper ≠ unusable selector := by
  intro same
  rw [unusable_eq] at same
  have rights : descriptor.accessRights = ⟨0x10000⟩ := congrArg Segment.accessRights same
  have clear : descriptor.accessRights.bits.getLsbD 16 = false :=
    descriptor.getLsbD_accessRights 16
  rw [rights] at clear
  exact absurd clear (by decide)

/-- Exactly the selectors that name no usable segment get the unusable one. -/
theorem ofTable_eq_unusable_iff :
    ofTable (m := Id) selector limit entry = unusable selector ↔
      (isNull selector || isBeyond selector limit) = true := by
  rw [ofTable_id]
  split
  · next refused => exact ⟨fun _ => refused, fun _ => rfl⟩
  · next usable =>
      exact ⟨fun same => absurd same (describedBy_ne_unusable _ _ _), fun refused =>
        absurd refused usable⟩

/-- **The requested privilege level is only echoed.** -/
theorem ofTable_of_eq_above {other : BitVec 16}
    (above : other.extractLsb 15 2 = selector.extractLsb 15 2) :
    ofTable (m := Id) other limit entry
      = { ofTable (m := Id) selector limit entry with selector := other } := by
  have bit : ∀ i, 2 ≤ i → other.getLsbD i = selector.getLsbD i := by
    intro i here
    rcases Nat.lt_or_ge i 16 with inside | outside
    · have same := congrArg (fun word : BitVec 14 => word.getLsbD (i - 2)) above
      have low : i - 2 ≤ 13 := by omega
      simpa [BitVec.getLsbD_extractLsb, low, Nat.add_sub_cancel' here] using same
    · rw [BitVec.getLsbD_of_ge _ _ outside, BitVec.getLsbD_of_ge _ _ outside]
  have index : index other = index selector := by
    ext i inside
    rw [Segment.index, Segment.index, BitVec.getElem_ushiftRight, BitVec.getElem_ushiftRight,
      bit _ (by omega)]
  have null : isNull other = isNull selector := by
    rw [isNull, isNull, index, isLocal, isLocal, bit 2 (by omega)]
  rw [ofTable_id, ofTable_id, isBeyond, isBeyond, null, index]
  split <;> rfl

end

/-- **A segment is read off bit ranges of the table**, for every selector, limit and content: it is
the unusable one exactly if the index is zero, the selector means a local table, or the entry does
not lie wholly within the limit; else the bits of the entry tell it, together with the low half of
the entry behind a system descriptor if that lies within the limit as well.  The requested privilege
level is echoed and has no other influence, and the look-up that reports gives the same segment. -/
theorem ofTable_decodes (selector limit : BitVec 16) (entry : BitVec 16 → Word) :
    let segment := ofTable (m := Id) selector limit entry
    let index := selector >>> 3
    let offset := 8 * index.toNat
    let refused := index = 0 ∨ selector.getLsbD 2 = true ∨ limit.toNat < offset + 7
    let wide := (entry index).getLsbD 44 = false ∧ offset + 15 ≤ limit.toNat
    (segment = ⟨selector, 0, 0, ⟨0x10000⟩⟩ ↔ refused) ∧
    (¬refused → Decodes (entry index)
      (if wide then (entry (index + 1)).extractLsb 31 0 else 0) segment) ∧
    (∀ other : BitVec 16, other.extractLsb 15 2 = selector.extractLsb 15 2 →
      ofTable (m := Id) other limit entry = { segment with selector := other }) ∧
    ∀ {σ : Type} (hw : Hardware σ) (s : σ),
      (hw.run (lookup selector limit fun index => pure (entry index)) s).1 = segment := by
  intro segment index offset refused wide
  have null : (isNull selector || isBeyond selector limit) = true ↔ refused :=
    refused_iff selector limit
  refine ⟨?_, fun usable => ?_,
    fun other => ofTable_of_eq_above selector limit entry, fun hw s => run_lookup_pure⟩
  · rw [← unusable_eq, ← null]
    exact ofTable_eq_unusable_iff selector limit entry
  · have found : segment = describedBy selector ⟨entry index⟩
        (if wide then (entry (index + 1)).extractLsb 31 0 else 0) :=
      (ofTable_id selector limit entry).trans (if_neg fun unusable => usable (null.1 unusable))
    rw [found]
    exact describedBy_decodes _ _ _

/-- A task segment above 4 GiB, named with requested privilege level 3: at the end of its table, and
in a table that ends within it. -/
theorem ofTable_decodes_task :
    let entry : BitVec 16 → Word := fun index =>
      if index = 4 then 0x12008b3450000067 else if index = 5 then 0x00000000ffff8000 else 0
    let whole := ofTable (m := Id) 0x23 0x2f entry
    let cut := ofTable (m := Id) 0x23 0x2e entry
    whole.base = 0xffff800012345000 ∧ whole.limit.toNat = 0x67 ∧
      whole.accessRights.segmentType = 0xb ∧ cut.base = 0x12345000 := by
  intro entry whole cut
  have found : Decodes _ _ whole := (ofTable_decodes 0x23 0x2f entry).2.1 (by decide)
  have found' : Decodes _ _ cut := (ofTable_decodes 0x23 0x2e entry).2.1 (by decide)
  exact ⟨found.base.trans (by decide), found.limit.trans (by decide),
    found.segmentType.trans (by decide), found'.base.trans (by decide)⟩

end Segment

end VtxMonitor
