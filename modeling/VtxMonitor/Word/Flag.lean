import VtxMonitor.Word.Field

/-!
# Word/Flag — words made of named single bits

Control words and the feature-control MSR are sets of named bits. A `Flag` names one bit; a list of
flags defines which bits of a word have a meaning (`Flag.union`), so that undefined bits can be
refused (`Flag.checked?`) or dropped (`Flag.truncate`).
-/

namespace VtxMonitor

/-- A named bit of a word of `w` bits. -/
structure Flag (w : Nat) where
  label : String
  bit : Nat

namespace Flag

variable {w : Nat}

/-- The word with only this bit set. -/
def mask (flag : Flag w) : BitVec w := 1#w <<< flag.bit

/-- Whether the bit is set in a word. -/
def isSetIn (flag : Flag w) (x : BitVec w) : Bool := x &&& flag.mask == flag.mask

/-- The word with the bits of all the flags. -/
def union (flags : List (Flag w)) : BitVec w := flags.foldl (fun x flag => x ||| flag.mask) 0

/-- A word without its undefined bits. -/
def truncate (flags : List (Flag w)) (x : BitVec w) : BitVec w := x &&& union flags

/-- A word that has no undefined bit. -/
def checked? (flags : List (Flag w)) (x : BitVec w) : Option (BitVec w) :=
  if x &&& ~~~union flags = 0 then some x else none

/-- Whether every flag is set. -/
def holdsAll (flags : List (Flag w)) (x : BitVec w) : Bool := union flags ||| x == x

/-- The labels of the flags that are set, in the order of the definition. -/
def describe (flags : List (Flag w)) (x : BitVec w) : String :=
  match flags.filter fun flag => flag.isSetIn x with
  | [] => "(empty)"
  | set => " | ".intercalate (set.map Flag.label)

end Flag

end VtxMonitor
