import VtxMonitor.Processor.Program

/-!
# Segment/Load — segments of the processor's own tables

`Segment.lookup` is the decoding of `Segment.ofTable` with a report when the selector points beyond
the table; `Segment.ofGdt` reads the entries from the table that a table register describes.
-/

namespace VtxMonitor.Segment

/-- Looks a selector up in a table and reports a selector beyond its limit. -/
def lookup (selector limit : BitVec 16) (entry : BitVec 16 → Program Word) : Program Segment := do
  if isBeyond selector limit then
    Program.report (.selectorBeyondGdt selector)
  ofTable selector limit entry

/-- Looks a selector up in the table that a table register describes. -/
def ofGdt (gdtr : TableRegister) (selector : BitVec 16) : Program Segment :=
  lookup selector gdtr.limit fun index => Program.request (.tableEntry gdtr index)

end VtxMonitor.Segment
