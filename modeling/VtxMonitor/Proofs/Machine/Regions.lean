import VtxMonitor.Machine.Trial
import VtxMonitor.Proofs.Host.Image

/-!
# Proofs/Machine/Regions — what a store leaves alone

A store changes eight bytes, saving a set of registers a longer region.  `Memory.AgreesOn` says that
two memories hold the same bytes in a region, `Memory.Holds` that words lie one after another.
**What was saved is found again**, register by register (`GuestRegisters.load_store`,
`loadWide_storeXmm`), and every region apart from it stays as it was
(`GuestRegisters.agreesOn_store`, `agreesOn_storeXmm`).  Regions are given by distances from an
address, so nothing depends on where the addresses wrap around.
-/

namespace VtxMonitor

variable {memory memory' memory'' : Memory} {address base value : Word} {size : Nat}

namespace Memory

/-! ## Regions -/

/-- The memories hold the same `size` bytes from `base` on. -/
def AgreesOn (base : Word) (size : Nat) (memory memory' : Memory) : Prop :=
  ∀ address, (address - base).toNat < size → memory'.byte address = memory.byte address

theorem AgreesOn.refl (memory : Memory) : AgreesOn base size memory memory := fun _ _ => rfl

theorem AgreesOn.trans (first : AgreesOn base size memory memory')
    (second : AgreesOn base size memory' memory'') : AgreesOn base size memory memory'' :=
  fun address inside => (second address inside).trans (first address inside)

/-- Memories that agree on a region agree on every part of it. -/
theorem AgreesOn.part {base' : Word} {size' : Nat} (agree : AgreesOn base size memory memory')
    (inside : (base' - base).toNat + size' ≤ size) : AgreesOn base' size' memory memory' := by
  intro address here
  have apart : (address - base).toNat
      = ((address - base').toNat + (base' - base).toNat) % 2 ^ 64 := by
    rw [← BitVec.toNat_add]
    congr 1
    bv_omega
  exact agree address (by omega)

theorem AgreesOn.word (agree : AgreesOn address 8 memory memory') :
    memory'.load address = memory.load address :=
  load_congr fun offset below => agree _ (by rw [toNat_add_sub_self]; exact below)

theorem AgreesOn.load (agree : AgreesOn base size memory memory')
    (inside : (address - base).toNat + 8 ≤ size) : memory'.load address = memory.load address :=
  (agree.part inside).word

theorem AgreesOn.wide (agree : AgreesOn address 16 memory memory') :
    memory'.loadWide address = memory.loadWide address := by
  have low : memory'.load address = memory.load address :=
    agree.load (by rw [BitVec.sub_self]; decide)
  have high : memory'.load (address + 8) = memory.load (address + 8) :=
    agree.load (by rw [toNat_add_sub_self]; decide)
  rw [loadWide, loadWide, low, high]

/-- A store behind a region leaves it alone, up to where the addresses wrap around. -/
theorem agreesOn_store (apart : size ≤ (address - base).toNat)
    (fits : (address - base).toNat + 8 ≤ 2 ^ 64) :
    AgreesOn base size memory (memory.store address value) := by
  intro other inside
  -- a byte of the region is below the stored ones, that is, far above them around the wrap
  refine byte_store_of_le _ _ _ _ ?_
  bv_omega

theorem agreesOn_storeWide {value : BitVec 128} (apart : size ≤ (address - base).toNat)
    (fits : (address - base).toNat + 16 ≤ 2 ^ 64) :
    AgreesOn base size memory (memory.storeWide address value) := by
  have next : (address + 8 - base).toNat = (address - base).toNat + 8 :=
    toNat_add_sub rfl (show _ + 8 < 2 ^ 64 by omega)
  exact (agreesOn_store apart (by omega)).trans (agreesOn_store (by omega) (by omega))

@[simp]
theorem loadWide_storeWide_self (memory : Memory) (address : Word) (value : BitVec 128) :
    (memory.storeWide address value).loadWide address = value := by
  let stored := memory.store address (value.extractLsb' 0 64)
  have next : (address + 8 - address).toNat = 8 := toNat_add_sub_self
  have kept : AgreesOn address 8 stored (memory.storeWide address value) :=
    agreesOn_store (by omega) (by omega)
  have low : (memory.storeWide address value).load address = value.extractLsb' 0 64 :=
    kept.word.trans (load_store_self _ _ _)
  rw [loadWide, low, storeWide, load_store_self,
    BitVec.extractLsb'_append_extractLsb'_eq_extractLsb' (by decide)]
  exact BitVec.extractLsb'_eq_self

/-! ## Words one after another -/

/-- Words lie one after another from an address on. -/
def Holds (memory : Memory) (address : Word) : List Word → Prop
  | [] => True
  | word :: words => memory.load address = word ∧ memory.Holds (address + 8) words

theorem Holds.of_agreesOn {words : List Word} (holds : memory.Holds address words)
    (agree : AgreesOn base size memory memory')
    (inside : (address - base).toNat + 8 * words.length ≤ size) (fits : size < 2 ^ 64) :
    memory'.Holds address words := by
  induction words generalizing address with
  | nil => trivial
  | cons word words ih =>
      rw [List.length_cons] at inside
      have next : (address + 8 - base).toNat = (address - base).toNat + 8 :=
        toNat_add_sub rfl (show _ + 8 < 2 ^ 64 by omega)
      exact ⟨(agree.load (by omega)).trans holds.1, ih holds.2 (by omega)⟩

theorem Holds.left {words words' : List Word} (holds : memory.Holds address (words ++ words')) :
    memory.Holds address words := by
  induction words generalizing address with
  | nil => trivial
  | cons word words ih => exact ⟨holds.1, ih holds.2⟩

theorem Holds.right {words words' : List Word} (holds : memory.Holds address (words ++ words')) :
    memory.Holds (address + BitVec.ofNat 64 (8 * words.length)) words' := by
  induction words generalizing address with
  | nil => rwa [List.length_nil, Nat.mul_zero, BitVec.add_zero]
  | cons word words ih =>
      have next : address + 8 + BitVec.ofNat 64 (8 * words.length)
          = address + BitVec.ofNat 64 (8 * (word :: words).length) := by
        rw [List.length_cons]
        bv_omega
      exact next ▸ ih holds.2

/-- A word that is stored right below others lies in front of them. -/
theorem Holds.store {words : List Word} (holds : memory.Holds address words)
    (fits : 8 * words.length + 8 < 2 ^ 64) (value : Word) :
    (memory.store (address - 8) value).Holds (address - 8) (value :: words) := by
  have below : (address - 8 - address).toNat = 2 ^ 64 - 8 := by bv_omega
  have kept : AgreesOn address (8 * words.length) memory (memory.store (address - 8) value) :=
    agreesOn_store (by omega) (by omega)
  refine ⟨load_store_self _ _ _, ?_⟩
  rw [BitVec.sub_add_cancel]
  exact holds.of_agreesOn kept (by rw [BitVec.sub_self]; simp) (by omega)

end Memory

/-! ## Registers in their slots -/

section Slots

variable {μ ι α : Type} (put : μ → ι → μ) (slot : μ → ι → α) (content : ι → α)

variable {put slot} in
theorem foldl_slot_of_not_mem (apart : ∀ m i j, i ≠ j → slot (put m j) i = slot m i)
    {l : List ι} {i : ι} (notMem : i ∉ l) (m : μ) : slot (l.foldl put m) i = slot m i := by
  induction l generalizing m with
  | nil => rfl
  | cons j l ih =>
      rw [List.mem_cons, not_or] at notMem
      exact (ih notMem.2 _).trans (apart m i j notMem.1)

/-- **Slots that are filled one after another keep what was put into them**, if filling one of them
leaves the others alone. -/
theorem foldl_slot_of_mem (same : ∀ m i, slot (put m i) i = content i)
    (apart : ∀ m i j, i ≠ j → slot (put m j) i = slot m i)
    {l : List ι} {i : ι} (mem : i ∈ l) (m : μ) : slot (l.foldl put m) i = content i := by
  induction l generalizing m with
  | nil => cases mem
  | cons j l ih =>
      -- only the last time that a slot is filled counts, and `content` is the same every time
      by_cases later : i ∈ l
      · exact ih later _
      · obtain rfl : i = j := (List.mem_cons.1 mem).resolve_right later
        exact (foldl_slot_of_not_mem apart later _).trans (same m i)

theorem foldl_agreesOn {put : Memory → ι → Memory}
    (agree : ∀ memory i, Memory.AgreesOn base size memory (put memory i)) (l : List ι)
    (memory : Memory) : Memory.AgreesOn base size memory (l.foldl put memory) := by
  induction l generalizing memory with
  | nil => exact .refl memory
  | cons i l ih => exact (agree memory i).trans (ih _)

end Slots

/-- The distance between two places at offsets from one address. -/
theorem add_sub_add (address offset offset' : Word) :
    address + offset - (address + offset') = offset - offset' := by
  bv_omega

theorem Register.mem_all (r : Register) : r ∈ Register.all := by
  cases r <;> decide

theorem toNat_guestOffset (r : Register) : (guestOffset r).toNat = 8 * r.number.toNat := by
  cases r <;> rfl

/-- The VM-exit entry point saves every register where it lies among the guest's registers. -/
theorem savedOffset_eq (r : Register) : savedOffset r = guestOffset r := by
  cases r <;> rfl

theorem toNat_xmmOffset (i : Fin 16) : (xmmOffset i).toNat = 16 * i.val := by
  rw [xmmOffset, BitVec.toNat_ofNat]
  omega

namespace GuestRegisters

variable (regs : GuestRegisters)

/-- **The guest's registers are found where they were stored.** -/
theorem load_store (memory : Memory) (address : Word) :
    load (regs.store memory address) address = regs := by
  refine GuestRegisters.ext (funext fun r => ?_)
  let put (memory : Memory) (r : Register) := memory.store (address + guestOffset r) (regs.get r)
  let slot (memory : Memory) (r : Register) := memory.load (address + guestOffset r)
  have apart (memory : Memory) (r s : Register) (ne : r ≠ s) :
      slot (put memory s) r = slot memory r := by
    have differ : r.number.toNat ≠ s.number.toNat := fun same => ne <| by
      rw [← r.ofNumber_number, ← s.ofNumber_number, BitVec.eq_of_toNat_eq same]
    have distance : (address + guestOffset s - (address + guestOffset r)).toNat
        = (2 ^ 64 - 8 * r.number.toNat + 8 * s.number.toNat) % 2 ^ 64 := by
      rw [add_sub_add, BitVec.toNat_sub, toNat_guestOffset, toNat_guestOffset]
    have kept : Memory.AgreesOn (address + guestOffset r) 8 memory (put memory s) :=
      Memory.agreesOn_store (by omega) (by omega)
    exact kept.word
  exact foldl_slot_of_mem put slot regs.get (fun memory r => memory.load_store_self _ _) apart
    r.mem_all memory

/-- Storing the guest's registers changes nothing apart from them. -/
theorem agreesOn_store (apart : size ≤ (address - base).toNat)
    (fits : (address - base).toNat + 0x80 ≤ 2 ^ 64) :
    Memory.AgreesOn base size memory (regs.store memory address) := by
  refine foldl_agreesOn (fun memory r => ?_) Register.all memory
  have number := r.number.isLt
  have distance : (address + guestOffset r - base).toNat
      = (address - base).toNat + 8 * r.number.toNat := by
    rw [← toNat_guestOffset]
    exact toNat_add_sub rfl (by rw [toNat_guestOffset]; omega)
  exact Memory.agreesOn_store (by omega) (by omega)

/-- Memories that agree where the guest's registers lie hold the same ones. -/
theorem load_of_agreesOn (agree : Memory.AgreesOn address 0x80 memory memory') :
    load memory' address = load memory address := by
  refine GuestRegisters.ext (funext fun r => agree.load ?_)
  have number := r.number.isLt
  rw [toNat_add_sub_self, toNat_guestOffset]
  omega

end GuestRegisters

namespace Memory

/-- Stores the XMM registers at an address. -/
def storeXmm (memory : Memory) (address : Word) (xmm : Fin 16 → BitVec 128) : Memory :=
  xmmRegisters.foldl (fun memory i => memory.storeWide (address + xmmOffset i) (xmm i)) memory

variable {xmm : Fin 16 → BitVec 128}

/-- **The XMM registers are found where they were stored.** -/
theorem loadWide_storeXmm (memory : Memory) (address : Word) (i : Fin 16) :
    (memory.storeXmm address xmm).loadWide (address + xmmOffset i) = xmm i := by
  let put (memory : Memory) (i : Fin 16) := memory.storeWide (address + xmmOffset i) (xmm i)
  let slot (memory : Memory) (i : Fin 16) := memory.loadWide (address + xmmOffset i)
  have apart (memory : Memory) (i j : Fin 16) (ne : i ≠ j) :
      slot (put memory j) i = slot memory i := by
    have differ : i.val ≠ j.val := Fin.val_ne_of_ne ne
    have distance : (address + xmmOffset j - (address + xmmOffset i)).toNat
        = (2 ^ 64 - 16 * i.val + 16 * j.val) % 2 ^ 64 := by
      rw [add_sub_add, BitVec.toNat_sub, toNat_xmmOffset, toNat_xmmOffset]
    have kept : AgreesOn (address + xmmOffset i) 16 memory (put memory j) :=
      agreesOn_storeWide (by omega) (by omega)
    exact kept.wide
  exact foldl_slot_of_mem put slot xmm (fun memory i => memory.loadWide_storeWide_self _ _) apart
    (List.mem_finRange i) memory

/-- Storing the XMM registers changes nothing apart from them. -/
theorem agreesOn_storeXmm (apart : size ≤ (address - base).toNat)
    (fits : (address - base).toNat + 0x100 ≤ 2 ^ 64) :
    AgreesOn base size memory (memory.storeXmm address xmm) := by
  refine foldl_agreesOn (fun memory i => ?_) xmmRegisters memory
  have distance : (address + xmmOffset i - base).toNat = (address - base).toNat + 16 * i.val := by
    rw [← toNat_xmmOffset]
    exact toNat_add_sub rfl (by rw [toNat_xmmOffset]; omega)
  exact agreesOn_storeWide (by omega) (by omega)

/-- Memories that agree where the XMM registers lie hold the same ones. -/
theorem AgreesOn.loadXmm (agree : AgreesOn address 0x100 memory memory') (i : Fin 16) :
    memory'.loadWide (address + xmmOffset i) = memory.loadWide (address + xmmOffset i) := by
  refine (agree.part ?_).wide
  rw [toNat_add_sub_self, toNat_xmmOffset]
  omega

end Memory

/-! ## Calls -/

/-- A routine brings the registers back that it may not change. -/
theorem Core.gpr_afterCall_of_not_mem (scratch core : Core) {r : Register}
    (kept : r ∉ volatileRegisters) : (Core.afterCall scratch core).gpr r = core.gpr r := if_neg kept

theorem Core.rsp_afterCall (scratch core : Core) :
    (Core.afterCall scratch core).rsp = core.rsp :=
  scratch.gpr_afterCall_of_not_mem core (by decide)

/-- A routine leaves alone what lies at and above the stack pointer. -/
theorem Core.agreesOn_afterCall (scratch core : Core) :
    Memory.AgreesOn core.rsp (2 ^ 63) core.memory (Core.afterCall scratch core).memory :=
  fun address above => if_neg (by rw [BitVec.msb_eq_decide]; simpa using above)

end VtxMonitor
