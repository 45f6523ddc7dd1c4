/-!
# Text/CodePoint — sets of code points as ranges

A property of characters is a list of closed ranges of code points, and a character has the property
if one of the ranges holds it.
-/

namespace VtxMonitor.Text

/-- A set of code points, as closed ranges. -/
abbrev CodePoints := List (Nat × Nat)

/-- Whether a character belongs to the set. -/
def CodePoints.contains (set : CodePoints) (c : Char) : Bool :=
  set.any fun range => range.1 ≤ c.toNat && c.toNat ≤ range.2

end VtxMonitor.Text
