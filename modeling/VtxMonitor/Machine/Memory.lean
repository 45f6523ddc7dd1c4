import VtxMonitor.Word.Field

/-!
# Machine/Memory — memory as bytes

A `Memory` gives every address a byte. Words are stored with the least significant byte first, and
an address beyond the last one wraps around. **A load gives back what was stored**
(`load_store_self`), **and a store changes only its own eight bytes** (`byte_store_of_le`).
-/

namespace VtxMonitor

/-- The byte at every address. -/
@[ext]
structure Memory where
  byte : Word → BitVec 8

namespace Memory

/-- The memory in which every byte is zero. -/
def zero : Memory := ⟨fun _ => 0⟩

/-- The word of eight bytes at an address. -/
def load (memory : Memory) (address : Word) : Word :=
  memory.byte (address + 7) ++ memory.byte (address + 6) ++ memory.byte (address + 5) ++
    memory.byte (address + 4) ++ memory.byte (address + 3) ++ memory.byte (address + 2) ++
    memory.byte (address + 1) ++ memory.byte address

/-- Stores a word in the eight bytes at an address. -/
def store (memory : Memory) (address value : Word) : Memory where
  byte other :=
    let offset := (other - address).toNat
    if offset < 8 then value.extractLsb' (8 * offset) 8 else memory.byte other

/-- The value of sixteen bytes at an address. -/
def loadWide (memory : Memory) (address : Word) : BitVec 128 :=
  memory.load (address + 8) ++ memory.load address

/-- Stores a value in the sixteen bytes at an address. -/
def storeWide (memory : Memory) (address : Word) (value : BitVec 128) : Memory :=
  (memory.store address (value.extractLsb' 0 64)).store (address + 8) (value.extractLsb' 64 64)

/-- The memory that holds words one after another from an address on, and zero elsewhere. -/
def ofWords (base : Word) (words : List Word) : Memory where
  byte address :=
    let offset := (address - base).toNat
    (words[offset / 8]?.getD 0).extractLsb' (8 * (offset % 8)) 8

/-- A store leaves every byte alone that lies eight or more bytes above its address. -/
theorem byte_store_of_le (memory : Memory) (address value other : Word)
    (h : 8 ≤ (other - address).toNat) :
    (memory.store address value).byte other = memory.byte other :=
  if_neg (Nat.not_lt.mpr h)

/-- A byte of a stored word. -/
theorem byte_store_of_lt (memory : Memory) (address value other : Word)
    (h : (other - address).toNat < 8) :
    (memory.store address value).byte other =
      value.extractLsb' (8 * (other - address).toNat) 8 :=
  if_pos h

private theorem bytes_eq (value : Word) :
    (value.extractLsb' 56 8 ++ value.extractLsb' 48 8 ++ value.extractLsb' 40 8 ++
      value.extractLsb' 32 8 ++ value.extractLsb' 24 8 ++ value.extractLsb' 16 8 ++
      value.extractLsb' 8 8 ++ value.extractLsb' 0 8 : Word) = value := by
  apply BitVec.eq_of_getLsbD_eq
  intro i hi
  simp only [BitVec.getLsbD_append, BitVec.getLsbD_extractLsb']
  rcases (by omega : i < 8 ∨ (8 ≤ i ∧ i < 16) ∨ (16 ≤ i ∧ i < 24) ∨ (24 ≤ i ∧ i < 32) ∨
      (32 ≤ i ∧ i < 40) ∨ (40 ≤ i ∧ i < 48) ∨ (48 ≤ i ∧ i < 56) ∨ 56 ≤ i) with
    h | h | h | h | h | h | h | h <;>
    simp (disch := omega) only [if_pos, if_neg] <;>
    grind

/-- A load gives the word of which the eight bytes lie at its address. -/
theorem load_eq_of_bytes {memory : Memory} {address value : Word}
    (bytes : ∀ offset : Word, offset.toNat < 8 →
      memory.byte (address + offset) = value.extractLsb' (8 * offset.toNat) 8) :
    memory.load address = value := by
  have byte0 := bytes 0 (by decide)
  rw [show address + (0 : Word) = address from BitVec.add_zero address] at byte0
  rw [load, byte0, bytes 1 (by decide), bytes 2 (by decide), bytes 3 (by decide),
    bytes 4 (by decide), bytes 5 (by decide), bytes 6 (by decide), bytes 7 (by decide)]
  exact bytes_eq value

/-- Memories that agree on the eight bytes at an address hold the same word there. -/
theorem load_congr {memory memory' : Memory} {address : Word}
    (agree : ∀ offset : Word, offset.toNat < 8 →
      memory'.byte (address + offset) = memory.byte (address + offset)) :
    memory'.load address = memory.load address := by
  have byte0 := agree 0 (by decide)
  rw [show address + (0 : Word) = address from BitVec.add_zero address] at byte0
  rw [load, load, byte0, agree 1 (by decide), agree 2 (by decide), agree 3 (by decide),
    agree 4 (by decide), agree 5 (by decide), agree 6 (by decide), agree 7 (by decide)]

/-- Loading at the address of a store gives the stored word. -/
@[simp]
theorem load_store_self (memory : Memory) (address value : Word) :
    (memory.store address value).load address = value := by
  refine load_eq_of_bytes fun offset inside => ?_
  have behind : address + offset - address = offset := by
    rw [BitVec.add_comm, BitVec.add_sub_cancel]
  rw [byte_store_of_lt _ _ _ _ (by rw [behind]; exact inside), behind]

end Memory

end VtxMonitor
