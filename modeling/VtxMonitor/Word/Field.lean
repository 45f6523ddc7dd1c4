import VtxMonitor.Text.Dump

/-!
# Word/Field — bit fields of a word

A `BitField` is a run of bits with a label; `get` reads it and `put` replaces it, keeping only the
low bits of the new value that fit. A list of fields is the layout of a structured word, from
which its dump follows.
-/

namespace VtxMonitor

open Text (Dump)

/-- A machine word of 64 bits. -/
abbrev Word := BitVec 64

/-- A run of `width` bits that starts at bit `low`. A flag is shown as a truth value. -/
structure BitField where
  label : String
  low : Nat
  width : Nat
  isFlag : Bool

/-- A field that holds a number. -/
def BitField.number (label : String) (low width : Nat) : BitField := ⟨label, low, width, false⟩

/-- A field of one bit that holds a truth value. -/
def BitField.flag (label : String) (bit : Nat) : BitField := ⟨label, bit, 1, true⟩

namespace BitField

/-- The value of a field. -/
def get {w : Nat} (field : BitField) (x : BitVec w) : BitVec field.width :=
  x.extractLsb' field.low field.width

/-- Whether the lowest bit of a field is set; for a flag, its truth value. -/
def test {w : Nat} (field : BitField) (x : BitVec w) : Bool := x.getLsbD field.low

/-- The word in which exactly the bits of a field are set. -/
def mask (field : BitField) (w : Nat) : BitVec w :=
  (BitVec.allOnes field.width).setWidth w <<< field.low

/-- Replaces a field by the low bits of `value`; all other bits stay. -/
def put {w v : Nat} (field : BitField) (value : BitVec v) (x : BitVec w) : BitVec w :=
  (x &&& ~~~field.mask w) ||| ((value.setWidth w <<< field.low) &&& field.mask w)

/-- Replaces a field by a truth value. -/
def putFlag {w : Nat} (field : BitField) (value : Bool) (x : BitVec w) : BitVec w :=
  field.put (BitVec.ofBool value) x

theorem getLsbD_mask (field : BitField) (w i : Nat) :
    (field.mask w).getLsbD i
      = decide (i < w ∧ field.low ≤ i ∧ i < field.low + field.width) := by
  rw [mask, BitVec.getLsbD_shiftLeft, BitVec.getLsbD_setWidth, BitVec.getLsbD_allOnes]
  grind

/-- **The bits of a field come from the new value, all others stay.** -/
theorem getLsbD_put {w v : Nat} (field : BitField) (value : BitVec v) (x : BitVec w) {i : Nat}
    (inside : i < w) :
    (field.put value x).getLsbD i
      = if field.low ≤ i ∧ i < field.low + field.width then value.getLsbD (i - field.low)
        else x.getLsbD i := by
  rw [put, BitVec.getLsbD_or, BitVec.getLsbD_and, BitVec.getLsbD_and, BitVec.getLsbD_not,
    BitVec.getLsbD_shiftLeft, BitVec.getLsbD_setWidth, getLsbD_mask]
  grind

/-- The dump of the value of a field. -/
def dump {w : Nat} (field : BitField) (x : BitVec w) : Dump :=
  if field.isFlag then .flag (field.test x) else .number (field.get x).toNat

end BitField

/-- Replaces the field of a layout that has a label; without one the word stays as it is. -/
def putLabelled {w v : Nat} (layout : List BitField) (label : String) (value : BitVec v)
    (x : BitVec w) : BitVec w :=
  match layout.find? fun field => field.label = label with
  | none => x
  | some field => field.put value x

/-- The dump of a structured word: the raw word as `.0`, then every field of the layout in order. -/
def dumpLayout {w : Nat} (label : String) (layout : List BitField) (x : BitVec w) : Dump :=
  .record label ((".0", .number x.toNat) :: layout.map fun field => (field.label, field.dump x))

end VtxMonitor
