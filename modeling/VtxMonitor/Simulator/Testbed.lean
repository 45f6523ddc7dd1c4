import VtxMonitor.Simulator.Processor

/-!
# Simulator/Testbed — a simulated processor with injected faults and replaced tables

A `Testbed` puts configurable answers in front of a simulated processor: VMX instructions that
fail at once, virtual addresses that are not mapped, and descriptor tables, selectors and debug
registers of its own. What is not configured reaches the processor unchanged; a faulted operation
never does.
-/

namespace VtxMonitor

/-- The failures that are injected. -/
structure Faults where
  vmread : List (Vmcs.Field × VmFail) := []
  vmwrite : List (Vmcs.Field × VmFail) := []
  vmxon : Option VmFail := none
  vmxoff : Option VmFail := none
  vmclear : Option VmFail := none
  vmptrld : Option VmFail := none
  invept : Option VmFail := none
  vmlaunch : Option VmFail := none

/-- A simulated processor behind configured answers. -/
structure Testbed where
  cpu : SimulatedProcessor := .reset
  faults : Faults := {}
  unmapped : List Word := []
  /-- The entries of every descriptor table. -/
  tableEntries : Option (List Word) := none
  gdtr : Option TableRegister := none
  idtr : Option TableRegister := none
  selectors : Option SegmentSelectors := none
  dr7 : Option Word := none
  /-- CPUID answers for single subleaves, the latest first. -/
  subleaves : List ((BitVec 32 × BitVec 32) × CpuidResult) := []

namespace Testbed

/-- Changes the processor behind the configuration. -/
def onCpu (f : SimulatedProcessor → SimulatedProcessor) (bed : Testbed) : Testbed :=
  { bed with cpu := f bed.cpu }

/-- Lets the simulated processor answer. -/
def forward (op : Operation) (bed : Testbed) : op.Reply × Testbed :=
  let answer := SimulatedProcessor.answer op bed.cpu
  (answer.1, { bed with cpu := answer.2 })

/-- A VMX instruction: fails at once if a fault is configured. -/
def faulty (fault : Option VmFail) (bed : Testbed)
    (otherwise : Except VmFail Unit × Testbed) : Except VmFail Unit × Testbed :=
  match fault with
  | some fail => (.error fail, bed)
  | none => otherwise

/-- The answer to an operation: the configured one, or that of the processor. -/
def answer : (op : Operation) → Testbed → op.Reply × Testbed
  | .cpuid leaf subleaf, bed =>
      match bed.subleaves.lookup (leaf, subleaf) with
      | some result => (result, bed)
      | none => forward (.cpuid leaf subleaf) bed
  | .readDr7, bed => (bed.dr7.getD SimulatedProcessor.dr7, bed)
  | .gdtr, bed => (bed.gdtr.getD SimulatedProcessor.gdtr, bed)
  | .idtr, bed => (bed.idtr.getD SimulatedProcessor.idtr, bed)
  | .tableEntry table index, bed =>
      match bed.tableEntries with
      | some entries => (entries[index.toNat]?.getD 0, bed)
      | none => forward (.tableEntry table index) bed
  | .selectors, bed => (bed.selectors.getD bed.cpu.selectors, bed)
  | .physicalAddress address, bed =>
      if address ∈ bed.unmapped then (none, bed) else forward (.physicalAddress address) bed
  | .vmread field, bed =>
      match bed.faults.vmread.lookup field with
      | some fail => (.error fail, bed)
      | none => forward (.vmread field) bed
  | .vmwrite field content, bed =>
      faulty (bed.faults.vmwrite.lookup field) bed (forward (.vmwrite field content) bed)
  | .vmxon address, bed => faulty bed.faults.vmxon bed (forward (.vmxon address) bed)
  | .vmxoff, bed => faulty bed.faults.vmxoff bed (forward .vmxoff bed)
  | .vmclear address, bed => faulty bed.faults.vmclear bed (forward (.vmclear address) bed)
  | .vmptrld address, bed => faulty bed.faults.vmptrld bed (forward (.vmptrld address) bed)
  | .inveptAll, bed => faulty bed.faults.invept bed (forward .inveptAll bed)
  | .vmlaunch, bed => faulty bed.faults.vmlaunch bed (forward .vmlaunch bed)
  | op, bed => forward op bed

/-- The testbed as hardware. -/
def hardware : Hardware Testbed where
  answer := answer

end Testbed

end VtxMonitor
