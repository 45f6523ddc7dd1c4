import VtxMonitor.Segment.Descriptor

/-!
# Segment/Table — the segment that a selector names in a descriptor table

`Segment.ofTable` decodes what a selector refers to. It is written over an arbitrary monad of table
reads, so that the entries it looks at are observable: at most the entry of the selector and, for a
system descriptor, the one behind it, and only entries that lie wholly within the limit.
-/

namespace VtxMonitor

open Text (Dump)

/-- Everything the VMCS stores about a segment register. -/
structure Segment where
  selector : BitVec 16
  base : Word
  limit : BitVec 32
  accessRights : AccessRights
deriving DecidableEq

namespace Segment

/-- The table index that a selector holds. -/
def index (selector : BitVec 16) : BitVec 16 := selector >>> 3

/-- Whether a selector refers to a local descriptor table. -/
def isLocal (selector : BitVec 16) : Bool := selector.getLsbD 2

/-- Whether a selector refers to no entry of the global table. -/
def isNull (selector : BitVec 16) : Bool := index selector = 0 || isLocal selector

/-- Whether the entry at an index and `extra` entries behind it lie wholly within a table limit. -/
def fits (limit : BitVec 16) (index : BitVec 16) (extra : Nat) : Bool :=
  8 * index.toNat + 8 * extra + 7 ≤ limit.toNat

/-- Whether a selector refers to an entry of the global table that lies beyond its limit. -/
def isBeyond (selector limit : BitVec 16) : Bool :=
  !isNull selector && !fits limit (index selector) 0

/-- The content of a segment register that holds no usable segment. -/
def unusable (selector : BitVec 16) : Segment := ⟨selector, 0, 0, .ofUnusable⟩

/-- Looks a selector up in a table. System descriptors are 16 bytes long: the low half of the entry
behind holds bits 63:32 of the base, if that entry is within the limit as well. -/
def ofTable {m : Type → Type} [Monad m] (selector limit : BitVec 16)
    (entry : BitVec 16 → m Word) : m Segment := do
  if isNull selector || isBeyond selector limit then
    return unusable selector
  let descriptor : SegmentDescriptor := ⟨← entry (index selector)⟩
  let mut upper : BitVec 32 := 0
  if !descriptor.descriptorType && fits limit (index selector) 1 then
    upper := (← entry (index selector + 1)).extractLsb' 0 32
  return ⟨selector, upper ++ descriptor.base, descriptor.limit, descriptor.accessRights⟩

/-- The segment that a descriptor describes, given bits 63:32 of its base. -/
def describedBy (selector : BitVec 16) (descriptor : SegmentDescriptor) (upper : BitVec 32) :
    Segment :=
  ⟨selector, upper ++ descriptor.base, descriptor.limit, descriptor.accessRights⟩

/-- A look-up reads no entry, or that of the selector, or the one behind it as well. -/
theorem ofTable_eq {m : Type → Type} [Monad m] (selector limit : BitVec 16)
    (entry : BitVec 16 → m Word) :
    ofTable selector limit entry
      = if isNull selector || isBeyond selector limit then pure (unusable selector)
        else entry (index selector) >>= fun low =>
          if !(SegmentDescriptor.mk low).descriptorType && fits limit (index selector) 1 then
            entry (index selector + 1) >>= fun high =>
              pure (describedBy selector ⟨low⟩ (high.extractLsb' 0 32))
          else pure (describedBy selector ⟨low⟩ 0) := rfl

/-- The dump of a segment. -/
def dump (s : Segment) : Dump :=
  .record "Segment"
    [("selector", .number s.selector.toNat), ("base", .number s.base.toNat),
      ("limit", .number s.limit.toNat), ("access_rights", s.accessRights.dump)]

end Segment

end VtxMonitor
