import VtxMonitor.Machine.Basic
import VtxMonitor.Proofs.Host.Image
import VtxMonitor.Proofs.Processor.Steps
import VtxMonitor.Proofs.Segment.Decoding

/-!
# Proofs/Segment/TableReads — looking a selector up stays inside of the table

The bound on the offset of an entry and the bound on its index are one and the same, up to the last
entry of the largest table.  A look-up therefore only reads entries that lie wholly within the limit
(`Segment.ofTable_congr`, `Segment.lookup_asksInside`), and on a machine **it reads no byte outside
of the table in memory** (`Segment.lookup_inside`): the machine never falls back on zero, no address
wraps around, and what lies elsewhere in memory makes no difference.
-/

namespace VtxMonitor

/-! ## Reading memory -/

namespace Machine

/-- The bytes of memory that a machine reads to answer a request: those of an entry of a descriptor
table that lies wholly within the limit, and no others. -/
def Reads : Operation → Word → Prop
  | .tableEntry table index, address =>
      8 * index.toNat + 7 ≤ table.limit.toNat ∧
        ∃ offset : Word, offset.toNat < 8 ∧ address = table.base + index.setWidth 64 * 8 + offset
  | _, _ => False

/-- Memory makes a difference to an answer only by the bytes that are read. -/
theorem answer_congr_of_reads {op : Operation} {m : Machine} {memory : Memory}
    (agree : ∀ address, Reads op address → memory.byte address = m.memory.byte address) :
    answer op { m with memory := memory }
      = ((answer op m).1, { (answer op m).2 with memory := memory }) := by
  cases op with
  | tableEntry table index =>
      refine Prod.ext ?_ rfl
      simp only [answer, tableEntry]
      split
      · next inside =>
          exact Memory.load_congr fun offset below => agree _ ⟨inside, offset, below, rfl⟩
      · rfl
  | readCr register => cases register <;> rfl
  | writeCr register value => cases register <;> rfl
  | inveptAll =>
      change (if m.inveptSupported then _ else _) = _
      rw [answer, inveptAll]
      split <;> rfl
  | _ => rfl

/-- No request changes memory. -/
theorem memory_answer (op : Operation) (m : Machine) : (answer op m).2.memory = m.memory := by
  cases op with
  | writeCr register value => cases register <;> rfl
  | inveptAll =>
      rw [answer, inveptAll]
      split <;> rfl
  | _ => rfl

/-- **Memory makes a difference to a run only by the bytes that are read in it.** -/
theorem run_congr_of_reads {α : Type} {program : Program α} {m : Machine} {memory : Memory}
    (agree : ∀ step ∈ hardware.steps program m, ∀ address, Reads step.1 address →
      memory.byte address = m.memory.byte address) :
    hardware.run program { m with memory := memory }
      = ((hardware.run program m).1, { (hardware.run program m).2 with memory := memory }) := by
  induction program generalizing m with
  | done value => rfl
  | perform op next ih =>
      have answered : hardware.answer op { m with memory := memory } = _ :=
        answer_congr_of_reads (agree _ List.mem_cons_self)
      rw [Hardware.run_perform, answered]
      refine ih _ fun step mem address reads => ?_
      exact (agree step (List.mem_cons_of_mem _ mem) address reads).trans
        (congrArg (·.byte address) (memory_answer op m).symm)

end Machine

namespace Segment

variable {selector limit : BitVec 16}

/-! ## Requests for entries -/

/-- The requests for an entry of a given table that lies wholly within its limit, and reports. -/
def AsksInside (table : TableRegister) (limit : BitVec 16) : Operation → Prop
  | .tableEntry asked index => asked = table ∧ 8 * index.toNat + 7 ≤ limit.toNat
  | .report _ => True
  | _ => False

/-- **A look-up asks for entries within the limit only**, whatever it is answered. -/
theorem lookup_asksInside (table : TableRegister) :
    (lookup selector limit fun index => Program.request (.tableEntry table index)).Only
      (AsksInside table limit) :=
  lookup_only (fun _ => trivial) fun _ inside => ⟨⟨rfl, inside⟩, fun _ => trivial⟩

/-! ## On a machine -/

section

variable {gdtr : TableRegister} (fits : gdtr.base.toNat + gdtr.limit.toNat < 2 ^ 64)
include fits

/-- The bytes of an entry within the limit lie within the table, and their addresses do not wrap
around. -/
theorem toNat_entry_byte {index : BitVec 16} {offset : Word}
    (inside : 8 * index.toNat + 7 ≤ gdtr.limit.toNat) (below : offset.toNat < 8) :
    (gdtr.base + index.setWidth 64 * 8 + offset).toNat
      = gdtr.base.toNat + 8 * index.toNat + offset.toNat := by
  have entry : (index.setWidth 64 * 8).toNat = 8 * index.toNat := by bv_omega
  rw [BitVec.toNat_add, BitVec.toNat_add, entry, Nat.mod_eq_of_lt (by omega),
    Nat.mod_eq_of_lt (by omega)]

/-- What a look-up reads lies within the table. -/
theorem inside_of_reads {op : Operation} (asks : AsksInside gdtr gdtr.limit op) {address : Word}
    (reads : Machine.Reads op address) :
    gdtr.base.toNat ≤ address.toNat ∧ address.toNat ≤ gdtr.base.toNat + gdtr.limit.toNat := by
  cases op with
  | tableEntry table index =>
      obtain ⟨rfl, inside⟩ := asks
      obtain ⟨-, offset, below, rfl⟩ := reads
      rw [toNat_entry_byte fits inside below]
      omega
  | _ => exact reads.elim

end

/-- **On a machine a look-up decodes the entries in memory**, and changes nothing. -/
theorem run_ofGdt_machine (m : Machine) (gdtr : TableRegister) (selector : BitVec 16) :
    Machine.hardware.run (ofGdt gdtr selector) m
      = (ofTable (m := Id) selector gdtr.limit (m.memory.descriptorAt gdtr.base), m) := by
  have decoded : Machine.hardware.run (ofGdt gdtr selector) m
      = (ofTable (m := Id) selector gdtr.limit (m.tableEntry gdtr), m) :=
    run_lookup (fun _ => rfl) fun _ => rfl
  rw [decoded]
  refine congrArg (·, m) (ofTable_congr fun index inside => ?_)
  exact if_pos inside

/-- **A look-up stays inside of its table**, for every selector and limit.  Whatever it is answered,
it asks for entries that lie wholly within the limit and for no others, so what reading gives beyond
the limit makes no difference.  On a machine with the table anywhere in memory, it gives the segment
of the entries that are there; every entry is asked for within the limit, where the machine does not
fall back on zero; and every byte that is read lies from the base to the limit, so that memory
elsewhere makes no difference. -/
theorem lookup_inside (selector limit : BitVec 16) :
    (∀ table, (lookup selector limit fun index => Program.request (.tableEntry table index)).Only
      (AsksInside table limit)) ∧
    (∀ {m : Type → Type} [Monad m] (entry entry' : BitVec 16 → m Word),
      (∀ index, 8 * index.toNat + 7 ≤ limit.toNat → entry' index = entry index) →
      ofTable selector limit entry' = ofTable selector limit entry) ∧
    ∀ (m : Machine) (base : Word), base.toNat + limit.toNat < 2 ^ 64 →
      let gdtr : TableRegister := ⟨base, limit⟩
      let ran := Machine.hardware.run (ofGdt gdtr selector) m
      let steps := Machine.hardware.steps (ofGdt gdtr selector) m
      ran = (ofTable (m := Id) selector limit (m.memory.descriptorAt base), m) ∧
      (∀ step ∈ steps, AsksInside gdtr limit step.1) ∧
      (∀ step ∈ steps, ∀ address, Machine.Reads step.1 address →
        base.toNat ≤ address.toNat ∧ address.toNat ≤ base.toNat + limit.toNat) ∧
      ∀ memory : Memory,
        (∀ address : Word, base.toNat ≤ address.toNat →
          address.toNat ≤ base.toNat + limit.toNat →
          memory.byte address = m.memory.byte address) →
        (Machine.hardware.run (ofGdt gdtr selector) { m with memory := memory }).1 = ran.1 := by
  refine ⟨lookup_asksInside, fun entry entry' => ofTable_congr, fun m base fits => ?_⟩
  intro gdtr ran steps
  have asks : ∀ step ∈ steps, AsksInside gdtr limit step.1 := fun step mem =>
    (lookup_asksInside gdtr).of_mem_steps mem
  have reads : ∀ step ∈ steps, ∀ address, Machine.Reads step.1 address →
      base.toNat ≤ address.toNat ∧ address.toNat ≤ base.toNat + limit.toNat :=
    fun step mem address => inside_of_reads fits (asks step mem)
  refine ⟨run_ofGdt_machine m gdtr selector, asks, reads, fun memory agree => ?_⟩
  have same := Machine.run_congr_of_reads fun step mem address read =>
    agree address (reads step mem address read).1 (reads step mem address read).2
  exact (Prod.ext_iff.1 same).1

/-- The last entry of the largest table, at the very end of the address space: a system descriptor
of which the second half would lie at address 0. -/
theorem lookup_inside_last :
    let base : Word := 0xffffffffffff0000
    let memory := Memory.ofWords 0xfffffffffffffff8 [0x12008b3450000067, 0x00000000ffff8000]
    let machine : Machine := { memory := memory }
    let found := (Machine.hardware.run (ofGdt ⟨base, 0xffff⟩ 0xfff8) machine).1
    let found' := (Machine.hardware.run (ofGdt ⟨base, 0xffff⟩ 0xfff8)
      { machine with memory := memory.store 0 0x1234 }).1
    base.toNat + (0xffff#16).toNat < 2 ^ 64 ∧ found.base = 0x12345000 ∧ found' = found := by
  intro base memory machine found found'
  have fits : base.toNat + (0xffff#16).toNat < 2 ^ 64 := by decide
  obtain ⟨ran, -, -, elsewhere⟩ := (lookup_inside 0xfff8 0xffff).2.2 machine base fits
  refine ⟨fits, ?_, elsewhere _ fun address above below => ?_⟩
  · rw [show found = _ from congrArg Prod.fst ran]
    decide
  · refine Memory.byte_store_of_le memory 0 0x1234 address ?_
    rw [show address - 0 = address from BitVec.sub_zero address]
    exact Nat.le_trans (by decide) above

end Segment

end VtxMonitor
