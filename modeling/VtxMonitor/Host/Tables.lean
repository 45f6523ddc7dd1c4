import VtxMonitor.Segment.Descriptor

/-!
# Host/Tables — the descriptor tables the monitor runs on after a VM-exit

Each virtual processor has its own GDT, IDT and task segment, never shared with the guest. The GDT
holds a null descriptor, a flat 64-bit code segment and a task segment of 16 bytes; every gate of
the IDT leads to the host-side entry point of its vector.
-/

namespace VtxMonitor

/-- The selector of the host code segment: index 1, privilege level 0. -/
def hostCsSelector : BitVec 16 := 0x08

/-- The selector of the host task segment: indices 2 and 3, privilege level 0. -/
def hostTrSelector : BitVec 16 := 0x10

/-- An IDT entry of 16 bytes. -/
@[ext]
structure InterruptGate where
  offsetLow : BitVec 16 := 0
  selector : BitVec 16 := 0
  ist : BitVec 8 := 0
  attributes : BitVec 8 := 0
  offsetMid : BitVec 16 := 0
  offsetHigh : BitVec 32 := 0
  reserved : BitVec 32 := 0
deriving DecidableEq

namespace InterruptGate

/-- The attributes of a present 64-bit interrupt gate of privilege level 0. -/
def presentAttributes : BitVec 8 := 0x8e

/-- The gate that leads to a handler through a code selector, on the current stack. -/
def ofHandler (handler : Word) (selector : BitVec 16) : InterruptGate where
  offsetLow := handler.extractLsb' 0 16
  selector := selector
  attributes := presentAttributes
  offsetMid := handler.extractLsb' 16 16
  offsetHigh := handler.extractLsb' 32 32

/-- The address that a gate leads to. -/
def handler (gate : InterruptGate) : Word := gate.offsetHigh ++ (gate.offsetMid ++ gate.offsetLow)

end InterruptGate

/-- An interrupt descriptor table: a gate for every vector. -/
abbrev HostIdt := BitVec 8 → InterruptGate

/-- The table in which no gate was ever written. -/
def HostIdt.empty : HostIdt := fun _ => {}

/-- The table that leads every vector to its entry point. -/
def HostIdt.routing (entryPoint : BitVec 8 → Word) : HostIdt := fun vector =>
  .ofHandler (entryPoint vector) hostCsSelector

/-- The four entries of the host GDT. -/
abbrev HostGdt := Vector Word 4

/-- The size of a task segment in bytes. -/
def taskStateSize : Nat := 104

/-- The content of a task segment, byte by byte. -/
abbrev TaskState := Vector (BitVec 8) taskStateSize

/-- The task segment in which every byte is zero. -/
def TaskState.zero : TaskState := Vector.replicate taskStateSize 0

/-- The offset of the I/O permission bitmap, which the last two bytes hold. -/
def TaskState.ioMapBase (tss : TaskState) : BitVec 16 := tss[103] ++ tss[102]

/-- Flat, present, ring 0, executable and readable, accessed, 64-bit, counted in pages. -/
def code64Descriptor : Word := 0x00af9b000000ffff

/-- The limit of a task segment: its size less one. -/
def taskLimit : BitVec 20 := BitVec.ofNat 20 (taskStateSize - 1)

/-- The first half of the descriptor of a task segment: present, ring 0, available 64-bit task, with
the low 32 bits of the base. -/
def taskDescriptorLow (base : Word) : Word :=
  let baseHigh : BitVec 8 := base.extractLsb' 24 8
  let limitHigh : BitVec 4 := taskLimit.extractLsb' 16 4
  let baseLow : BitVec 24 := base.extractLsb' 0 24
  let limitLow : BitVec 16 := taskLimit.extractLsb' 0 16
  baseHigh ++ 0#4 ++ limitHigh ++ 0x89#8 ++ baseLow ++ limitLow

/-- The second half of the descriptor of a task segment: bits 63:32 of the base. -/
def taskDescriptorHigh (base : Word) : Word := (base.extractLsb' 32 32).setWidth 64

/-- The host GDT for the task segment at an address. -/
def HostGdt.forTask (tssBase : Word) : HostGdt :=
  #v[0, code64Descriptor, taskDescriptorLow tssBase, taskDescriptorHigh tssBase]

/-- Writes the entries for the task segment at an address, one by one over what the table held. -/
def HostGdt.prepare (gdt : HostGdt) (tssBase : Word) : HostGdt :=
  (((gdt.set 0 0).set 1 code64Descriptor).set 2 (taskDescriptorLow tssBase)).set 3
    (taskDescriptorHigh tssBase)

/-- **Nothing is left of what the table held.** -/
theorem HostGdt.prepare_eq (gdt : HostGdt) (tssBase : Word) :
    gdt.prepare tssBase = .forTask tssBase := by
  refine Vector.ext fun index inside => ?_
  simp only [prepare, Vector.getElem_set]
  rcases index with _ | _ | _ | _ | _
  · rfl
  · rfl
  · rfl
  · rfl
  · omega

/-- An entry of the host GDT; zero beyond its end. -/
def HostGdt.entry (gdt : HostGdt) (index : BitVec 16) : Word := gdt[index.toNat]?.getD 0

end VtxMonitor
