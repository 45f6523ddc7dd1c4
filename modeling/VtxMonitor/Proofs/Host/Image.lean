import Mathlib.Algebra.Group.Nat.Defs
import VtxMonitor.Machine.Memory
import VtxMonitor.Proofs.Host.Tables
import VtxMonitor.Vcpu.Memory

/-!
# Proofs/Host/Image — the host's private structures as the processor reads them

The host-state area leads to the stack, the task segment and the descriptor tables of a virtual
processor by their virtual addresses; `VcpuMemory.hostImage` is what the processor finds there.
**Loads at the addresses of the structures give their content back**: the words at the top of the
stack (`load_vcpuSlot`, `load_markerSlot`), the entries of the GDT (`descriptorAt_hostImage`), the
gates of the IDT (`gateAt_hostImage`) and the task segment (`load_tss`).
-/

namespace VtxMonitor

/-! ## Addresses -/

/-- An address behind one whose distance is known. -/
theorem toNat_add_sub {address base offset : Word} {distance : Nat}
    (here : (address - base).toNat = distance) (fits : distance + offset.toNat < 2 ^ 64) :
    (address + offset - base).toNat = distance + offset.toNat := by
  have moved : address + offset - base = (address - base) + offset := by
    rw [BitVec.sub_eq_add_neg, BitVec.add_assoc, BitVec.add_comm offset, ← BitVec.add_assoc,
      ← BitVec.sub_eq_add_neg]
  rw [moved, BitVec.toNat_add, here, Nat.mod_eq_of_lt fits]

theorem toNat_add_sub_self {base offset : Word} :
    (base + offset - base).toNat = offset.toNat := by
  rw [BitVec.add_comm, BitVec.add_sub_cancel]

/-- An address rounded down to a multiple of 16. -/
theorem toNat_and_not_15 (address : Word) :
    (address &&& ~~~0xf).toNat = address.toNat - address.toNat % 16 := by
  have shifted : address &&& ~~~(0xf : Word) = (address >>> 4) <<< 4 := by
    apply BitVec.eq_of_getLsbD_eq
    intro i inside
    have low : (0xf : Word).getLsbD i = decide (i < 4) := by
      rw [show (0xf : Word) = BitVec.ofNat 64 (2 ^ 4 - 1) from rfl, BitVec.getLsbD_ofNat,
        Nat.testBit_two_pow_sub_one, decide_eq_true inside, Bool.true_and]
    rw [BitVec.getLsbD_and, BitVec.getLsbD_not, low, BitVec.getLsbD_shiftLeft,
      BitVec.getLsbD_ushiftRight]
    by_cases below : i < 4
    · simp [below]
    · simp [below, inside, show 4 + (i - 4) = i by omega]
  rw [shifted, BitVec.toNat_shiftLeft, BitVec.toNat_ushiftRight, Nat.shiftLeft_eq,
    Nat.shiftRight_eq_div_pow]
  have bound := address.isLt
  omega

/-- Rounding an address down changes nothing if it is aligned. -/
theorem and_not_eq_self {address : Word} (aligned : address.toNat % 16 = 0) :
    address &&& ~~~0xf = address :=
  BitVec.eq_of_toNat_eq (by rw [toNat_and_not_15, aligned, Nat.sub_zero])

namespace Memory

/-- The memory that holds the word `slot i` in the eight bytes from `base + 8 * i` on. -/
def ofSlots (base : Word) (slot : Nat → Word) : Memory where
  byte address :=
    let offset := (address - base).toNat
    (slot (offset / 8)).extractLsb' (8 * (offset % 8)) 8

/-- **A load at a slot gives the word in it.** -/
theorem load_ofSlots {base address : Word} (slot : Nat → Word) {i : Nat}
    (here : (address - base).toNat = 8 * i) : (ofSlots base slot).load address = slot i := by
  refine load_eq_of_bytes fun offset inside => ?_
  have slots := (address - base).isLt
  have moved := toNat_add_sub here (show 8 * i + offset.toNat < 2 ^ 64 by omega)
  have index : (8 * i + offset.toNat) / 8 = i := by omega
  have position : (8 * i + offset.toNat) % 8 = offset.toNat := by omega
  simp only [ofSlots, moved, index, position]

/-- The entry of a descriptor table at an address. -/
def descriptorAt (memory : Memory) (table : Word) (index : BitVec 16) : Word :=
  memory.load (table + index.setWidth 64 * 8)

/-- The gate of an interrupt descriptor table at an address. -/
def gateAt (memory : Memory) (table : Word) (vector : BitVec 8) : InterruptGate :=
  .ofWords (memory.load (table + vector.setWidth 64 * 16))
    (memory.load (table + vector.setWidth 64 * 16 + 8))

end Memory

/-! ## The image -/

/-- A word of a task segment. -/
def TaskState.word (tss : TaskState) (i : Nat) : Word :=
  Memory.load ⟨fun address => tss[address.toNat]?.getD 0⟩ (BitVec.ofNat 64 (8 * i))

theorem TaskState.word_zero (i : Nat) : TaskState.zero.word i = 0 := by
  have byte : ∀ j : Nat, TaskState.zero[j]?.getD 0 = 0 := by
    intro j
    rw [TaskState.zero, Vector.getElem?_replicate]
    split <;> rfl
  simp only [word, Memory.load, byte]
  rfl

/-- A word of an interrupt descriptor table: each gate takes two. -/
def HostIdt.word (idt : HostIdt) (i : Nat) : Word :=
  let gate := idt (BitVec.ofNat 8 (i / 2))
  if i % 2 = 0 then gate.low else gate.high

theorem HostIdt.word_even (idt : HostIdt) (vector : BitVec 8) :
    idt.word (2 * vector.toNat) = (idt vector).low := by
  have half : 2 * vector.toNat / 2 = vector.toNat := by omega
  have even : 2 * vector.toNat % 2 = 0 := by omega
  rw [word, half, BitVec.ofNat_toNat, BitVec.setWidth_eq]
  exact if_pos even

theorem HostIdt.word_odd (idt : HostIdt) (vector : BitVec 8) :
    idt.word (2 * vector.toNat + 1) = (idt vector).high := by
  have half : (2 * vector.toNat + 1) / 2 = vector.toNat := by omega
  have odd : ¬(2 * vector.toNat + 1) % 2 = 0 := by omega
  rw [word, half, BitVec.ofNat_toNat, BitVec.setWidth_eq]
  exact if_neg odd

namespace VcpuMemory

variable (memory : VcpuMemory)

/-- A word of a page: the top of the host stack, the task segment, the IDT and the GDT.  The regions
and the bitmap, which the processor finds by their physical addresses, are left out. -/
def pageWord (page word : Nat) : Word :=
  match page with
  | 5 => if word = 0x1fe then memory.vcpuPointer else if word = 0x1ff then memory.marker else 0
  | 9 => memory.tss.word word
  | 10 => memory.idt.word word
  | 11 => memory.gdt.entry (BitVec.ofNat 16 word)
  | _ => 0

/-- The bytes that the host-state area leads to. -/
def hostImage : Memory :=
  .ofSlots memory.base fun slot => memory.pageWord (slot / 0x200) (slot % 0x200)

variable {memory}

theorem load_hostImage {address : Word} {page word : Nat} (inside : word < 0x200)
    (here : (address - memory.base).toNat = 0x1000 * page + 8 * word) :
    memory.hostImage.load address = memory.pageWord page word := by
  have slot : (address - memory.base).toNat = 8 * (0x200 * page + word) := by omega
  have thePage : (0x200 * page + word) / 0x200 = page := by omega
  have theWord : (0x200 * page + word) % 0x200 = word := by omega
  rw [hostImage, Memory.load_ofSlots _ slot, thePage, theWord]

variable (memory)

/-! ## The host stack -/

theorem load_vcpuSlot : memory.hostImage.load memory.vcpuSlot = memory.vcpuPointer := by
  have slot : memory.vcpuSlot = memory.base + 0x5ff0 := by
    rw [vcpuSlot, hostStackSize]
    bv_omega
  have here : (memory.base + 0x5ff0 - memory.base).toNat = 0x1000 * 5 + 8 * 0x1fe :=
    toNat_add_sub_self
  rw [slot, load_hostImage (by omega) here]
  rfl

theorem load_markerSlot : memory.hostImage.load memory.markerSlot = memory.marker := by
  have slot : memory.markerSlot = memory.base + 0x5ff8 := by
    rw [markerSlot, hostStackSize]
    bv_omega
  have here : (memory.base + 0x5ff8 - memory.base).toNat = 0x1000 * 5 + 8 * 0x1ff :=
    toNat_add_sub_self
  rw [slot, load_hostImage (by omega) here]
  rfl

/-- The stack pointer of an aligned allocation lies right below the slot of the pointer. -/
theorem hostRsp_eq (aligned : memory.base.toNat % 4096 = 0) :
    memory.hostRsp = memory.base + 0x5fe8 := by
  have slot : memory.vcpuSlot = memory.base + 0x5ff0 := by
    rw [vcpuSlot, hostStackSize]
    bv_omega
  have rounded : (memory.base + 0x5ff0).toNat % 16 = 0 := by bv_omega
  rw [hostRsp, slot, and_not_eq_self rounded]
  bv_omega

theorem toNat_hostRsp (aligned : memory.base.toNat % 4096 = 0)
    (fits : memory.base.toNat + size.toNat ≤ 2 ^ 64) :
    memory.hostRsp.toNat = memory.base.toNat + 0x5fe8 := by
  have size : size.toNat = 0xc000 := rfl
  rw [memory.hostRsp_eq aligned]
  bv_omega

theorem hostRsp_add_8 (aligned : memory.base.toNat % 4096 = 0) :
    memory.hostRsp + 8 = memory.vcpuSlot := by
  rw [memory.hostRsp_eq aligned, vcpuSlot, hostStackSize]
  bv_omega

theorem hostRsp_add_16 (aligned : memory.base.toNat % 4096 = 0) :
    memory.hostRsp + 16 = memory.markerSlot := by
  rw [memory.hostRsp_eq aligned, markerSlot, hostStackSize]
  bv_omega

/-! ## Task segment and descriptor tables -/

theorem load_tss {i : Nat} (inside : i < 13) :
    memory.hostImage.load (memory.tssAddress + BitVec.ofNat 64 (8 * i)) = memory.tss.word i := by
  have offset : (BitVec.ofNat 64 (8 * i)).toNat = 8 * i := by
    rw [BitVec.toNat_ofNat, Nat.mod_eq_of_lt (by omega)]
  have here : (memory.tssAddress - memory.base).toNat = 0x1000 * 9 := toNat_add_sub_self
  have moved := toNat_add_sub here (show 0x1000 * 9 + (BitVec.ofNat 64 (8 * i)).toNat < 2 ^ 64 by
    omega)
  rw [offset] at moved
  exact load_hostImage (by omega) moved

/-- **An entry of the GDT is found at its address.** -/
theorem descriptorAt_hostImage {index : BitVec 16} (inside : index.toNat < 0x200) :
    memory.hostImage.descriptorAt memory.gdtAddress index = memory.gdt.entry index := by
  have offset : (index.setWidth 64 * 8).toNat = 8 * index.toNat := by bv_omega
  have here : (memory.gdtAddress - memory.base).toNat = 0x1000 * 11 := toNat_add_sub_self
  have moved := toNat_add_sub here (show 0x1000 * 11 + (index.setWidth 64 * 8).toNat < 2 ^ 64 by
    omega)
  rw [offset] at moved
  rw [Memory.descriptorAt, load_hostImage inside moved]
  exact congrArg memory.gdt.entry (BitVec.ofNat_toNat ..)

/-- **A gate of the IDT is found at its address.** -/
theorem gateAt_hostImage (vector : BitVec 8) :
    memory.hostImage.gateAt memory.idtAddress vector = memory.idt vector := by
  have bound := vector.isLt
  have offset : (vector.setWidth 64 * 16).toNat = 8 * (2 * vector.toNat) := by bv_omega
  have here : (memory.idtAddress - memory.base).toNat = 0x1000 * 10 := toNat_add_sub_self
  have low := toNat_add_sub here (show 0x1000 * 10 + (vector.setWidth 64 * 16).toNat < 2 ^ 64 by
    omega)
  rw [offset] at low
  have eight : (8 : Word).toNat = 8 := rfl
  have high := toNat_add_sub low (show 0x1000 * 10 + 8 * (2 * vector.toNat) + (8 : Word).toNat
    < 2 ^ 64 by omega)
  have high' : (memory.idtAddress + vector.setWidth 64 * 16 + 8 - memory.base).toNat
      = 0x1000 * 10 + 8 * (2 * vector.toNat + 1) := by omega
  rw [Memory.gateAt, load_hostImage (by omega) low, load_hostImage (by omega) high',
    pageWord, pageWord, HostIdt.word_even, HostIdt.word_odd, InterruptGate.ofWords_low_high]

end VcpuMemory

end VtxMonitor
