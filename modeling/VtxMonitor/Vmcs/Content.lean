import VtxMonitor.Text.Dump
import VtxMonitor.Word.Field

/-!
# Vmcs/Content — what is written to a VMCS field

The monitor writes numbers, and into the host-state area also the place where the processor goes on
after a VM-exit. Where that place lies is the processor's own affair, so the content says which of
the two it is, and **a number is never taken for the entry point**; only reading the field back
turns the entry point into a number (`Content.resolve`).
-/

namespace VtxMonitor.Vmcs

/-- What is written to a VMCS field. -/
inductive Content where
  | word (value : Word)
  /-- The place where the processor goes on after a VM-exit. -/
  | exitEntryPoint
deriving DecidableEq

namespace Content

/-- The number that a content amounts to where the VM-exit entry point lies at an address. -/
def resolve (entryPoint : Word) : Content → Word
  | .word value => value
  | .exitEntryPoint => entryPoint

/-- The dump of a content; the VM-exit entry point is shown by name. -/
def dump : Content → Text.Dump
  | .word value => .number value.toNat
  | .exitEntryPoint => .name "exit_entry_point"

@[simp]
theorem resolve_word (entryPoint value : Word) : (word value).resolve entryPoint = value := rfl

@[simp]
theorem resolve_exitEntryPoint (entryPoint : Word) :
    exitEntryPoint.resolve entryPoint = entryPoint := rfl

end Content

end VtxMonitor.Vmcs
