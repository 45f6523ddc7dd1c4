import VtxMonitor.Proofs.Machine.Regions

/-!
# Proofs/Machine/StraightLine — what straight-line code does

`Instruction.steps` executes a list of instructions.  The lists that the entry points are made of
each have one lemma that says what they do: they save and restore XMM registers (`steps_saveXmm`,
`steps_restoreXmm`), save and restore the guest's registers (`steps_saveGuest`,
`steps_restoreGuest`), push words (`steps_push`), and **pops bring back what lies at the stack
pointer** (`steps_pop`).
-/

namespace VtxMonitor

variable {core core' core'' : Core}

/-! ## The stack pointer -/

theorem isAligned16_iff {address : Word} :
    isAligned16 address = true ↔ address.toNat % 16 = 0 := by
  have low : (address &&& 0xf).toNat = address.toNat % 16 := by
    rw [BitVec.toNat_and, show (0xf : Word).toNat = 2 ^ 4 - 1 from rfl,
      Nat.and_two_pow_sub_one_eq_mod]
  rw [isAligned16, decide_eq_true_iff, ← BitVec.toNat_inj, low]
  rfl

theorem isAligned16_add_xmmOffset {address : Word} (aligned : isAligned16 address = true)
    (i : Fin 16) : isAligned16 (address + xmmOffset i) = true := by
  rw [isAligned16_iff] at aligned ⊢
  rw [BitVec.toNat_add, toNat_xmmOffset]
  omega

namespace Core

theorem gpr_setGpr_self (core : Core) (r : Register) (value : Word) :
    (core.setGpr r value).gpr r = value := if_pos rfl

theorem gpr_setGpr_of_ne (core : Core) {r s : Register} (ne : s ≠ r) (value : Word) :
    (core.setGpr r value).gpr s = core.gpr s := if_neg ne

theorem rsp_setGpr_of_ne (core : Core) {r : Register} (ne : Register.rsp ≠ r) (value : Word) :
    (core.setGpr r value).rsp = core.rsp := if_neg ne

theorem xmm_setXmm_self (core : Core) (i : Fin 16) (value : BitVec 128) :
    (core.setXmm i value).xmm i = value := if_pos rfl

theorem xmm_setXmm_of_ne (core : Core) {i j : Fin 16} (ne : j ≠ i) (value : BitVec 128) :
    (core.setXmm i value).xmm j = core.xmm j := if_neg ne

theorem atStack_zero (core : Core) : core.atStack 0 = core.memory.load core.rsp :=
  congrArg core.memory.load (BitVec.add_zero _)

theorem rsp_push (core : Core) (value : Word) : (core.push value).rsp = core.rsp - 8 := rfl

theorem gpr_push_of_ne (core : Core) {r : Register} (ne : r ≠ .rsp) (value : Word) :
    (core.push value).gpr r = core.gpr r := if_neg ne

end Core

/-! ## Lists of instructions -/

namespace Instruction

/-- Executes instructions one after another. -/
def steps (core : Core) : List Instruction → Option Core
  | [] => some core
  | instruction :: rest => (instruction.step core).bind fun core => steps core rest

theorem steps_cons {instruction : Instruction} {rest : List Instruction}
    (first : instruction.step core = some core') :
    steps core (instruction :: rest) = steps core' rest := by
  rw [steps, first]
  rfl

theorem steps_append {l l' : List Instruction} (first : steps core l = some core') :
    steps core (l ++ l') = steps core' l' := by
  induction l generalizing core with
  | nil => cases first; rfl
  | cons instruction l ih =>
      obtain ⟨next, stepped, rest⟩ := Option.bind_eq_some_iff.1 first
      rw [List.cons_append, steps_cons stepped, ih rest]

theorem steps_trans {l l' : List Instruction} (first : steps core l = some core')
    (second : steps core' l' = some core'') : steps core (l ++ l') = some core'' :=
  (steps_append first).trans second

/-- Instructions that only store something. -/
theorem steps_stores {ι : Type} {instruction : ι → Instruction} {put : Memory → ι → Memory}
    (stores : ∀ memory i, (instruction i).step { core with memory := memory }
      = some { core with memory := put memory i })
    (l : List ι) (memory : Memory) :
    steps { core with memory := memory } (l.map instruction)
      = some { core with memory := l.foldl put memory } := by
  induction l generalizing memory with
  | nil => rfl
  | cons i l ih => rw [List.map_cons, steps_cons (stores memory i), ih, List.foldl_cons]

/-! ## XMM registers -/

theorem steps_saveXmm (aligned : isAligned16 core.rsp = true) :
    steps core saveXmmRegisters
      = some { core with memory := core.memory.storeXmm core.rsp core.xmm } := by
  have saves (memory : Memory) (i : Fin 16) :
      step { core with memory := memory } (.saveXmm (xmmOffset i) i)
        = some { core with
            memory := memory.storeWide (core.rsp + xmmOffset i) (core.xmm i) } :=
    if_pos (isAligned16_add_xmmOffset aligned i)
  exact steps_stores saves xmmRegisters core.memory

private theorem steps_restoreXmm_list (aligned : isAligned16 core.rsp = true)
    (l : List (Fin 16)) :
    ∃ xmm, steps core (l.map fun i => .restoreXmm i (xmmOffset i))
        = some { core with xmm := xmm } ∧
      (∀ i ∈ l, xmm i = core.memory.loadWide (core.rsp + xmmOffset i)) ∧
      ∀ i ∉ l, xmm i = core.xmm i := by
  induction l generalizing core with
  | nil => exact ⟨core.xmm, rfl, fun _ mem => absurd mem List.not_mem_nil, fun _ _ => rfl⟩
  | cons i l ih =>
      let next := core.setXmm i (core.memory.loadWide (core.rsp + xmmOffset i))
      have first : step core (.restoreXmm i (xmmOffset i)) = some next :=
        if_pos (isAligned16_add_xmmOffset aligned i)
      have still : isAligned16 next.rsp = true := aligned
      obtain ⟨xmm, executed, loaded, kept⟩ := ih still
      refine ⟨xmm, (steps_cons first).trans executed, List.forall_mem_cons.2 ⟨?_, loaded⟩,
        fun j notMem => ?_⟩
      · by_cases later : i ∈ l
        · exact loaded i later
        · exact (kept i later).trans (core.xmm_setXmm_self i _)
      · rw [List.mem_cons, not_or] at notMem
        exact (kept j notMem.2).trans (core.xmm_setXmm_of_ne notMem.1 _)

theorem steps_restoreXmm (aligned : isAligned16 core.rsp = true) :
    steps core restoreXmmRegisters
      = some { core with xmm := fun i => core.memory.loadWide (core.rsp + xmmOffset i) } := by
  obtain ⟨xmm, executed, loaded, -⟩ := steps_restoreXmm_list aligned xmmRegisters
  exact (funext fun i => loaded i (List.mem_finRange i)) ▸ executed

/-! ## The guest's registers -/

theorem steps_saveGuest (core : Core) :
    steps core (Register.all.map saveGuestRegister)
      = some { core with memory := core.guestRegisters.store core.memory core.rsp } := by
  refine steps_stores (fun memory r => ?_) Register.all core.memory
  by_cases stack : r = .rsp
  · subst stack
    rfl
  · rw [saveGuestRegister, if_neg stack, savedOffset_eq, Core.guestRegisters,
      GuestRegisters.get_set_of_ne _ _ stack]
    rfl

private theorem steps_restoreGuest_list (core : Core) {l : List Register} (spared : .rsp ∉ l) :
    ∃ gpr, steps core (l.map fun r => .restore r (savedOffset r)) = some { core with gpr := gpr } ∧
      (∀ r ∈ l, gpr r = core.memory.load (core.rsp + savedOffset r)) ∧
      ∀ r ∉ l, gpr r = core.gpr r := by
  induction l generalizing core with
  | nil => exact ⟨core.gpr, rfl, fun _ mem => absurd mem List.not_mem_nil, fun _ _ => rfl⟩
  | cons r l ih =>
      rw [List.mem_cons, not_or] at spared
      let next := core.setGpr r (core.atStack (savedOffset r))
      have first : step core (.restore r (savedOffset r)) = some next := rfl
      have stack : next.rsp = core.rsp := core.rsp_setGpr_of_ne spared.1 _
      obtain ⟨gpr, executed, loaded, kept⟩ := ih next spared.2
      rw [stack] at loaded
      refine ⟨gpr, (steps_cons first).trans executed, List.forall_mem_cons.2 ⟨?_, loaded⟩,
        fun s notMem => ?_⟩
      · by_cases later : r ∈ l
        · exact loaded r later
        · exact (kept r later).trans (core.gpr_setGpr_self r _)
      · rw [List.mem_cons, not_or] at notMem
        exact (kept s notMem.2).trans (core.gpr_setGpr_of_ne notMem.1 _)

theorem mem_restoredRegisters {r : Register} : r ∈ restoredRegisters ↔ r ≠ .rsp := by
  cases r <;> decide

theorem steps_restoreGuest (core : Core) :
    ∃ gpr, steps core (restoredRegisters.map fun r => .restore r (savedOffset r))
        = some { core with gpr := gpr } ∧
      gpr .rsp = core.rsp ∧
      ∀ r ≠ .rsp, gpr r = (GuestRegisters.load core.memory core.rsp).get r := by
  have spared : Register.rsp ∉ restoredRegisters := by decide
  obtain ⟨gpr, executed, loaded, kept⟩ := steps_restoreGuest_list core spared
  refine ⟨gpr, executed, kept .rsp spared, fun r other => ?_⟩
  rw [loaded r (mem_restoredRegisters.2 other), savedOffset_eq]
  rfl

end Instruction

/-! ## Pushes and pops -/

namespace Core

/-- Pushes words one after another. -/
def pushAll (core : Core) (words : List Word) : Core := words.foldl push core

variable (words : List Word)

theorem rsp_pushAll (core : Core) :
    (core.pushAll words).rsp = core.rsp - BitVec.ofNat 64 (8 * words.length) := by
  induction words generalizing core with
  | nil => exact (BitVec.sub_zero _).symm
  | cons word words ih =>
      refine (ih (core.push word)).trans ?_
      rw [rsp_push, List.length_cons]
      bv_omega

theorem gpr_pushAll_of_ne (core : Core) {r : Register} (ne : r ≠ .rsp) :
    (core.pushAll words).gpr r = core.gpr r := by
  induction words generalizing core with
  | nil => rfl
  | cons word words ih => exact (ih (core.push word)).trans (core.gpr_push_of_ne ne word)

theorem xmm_pushAll (core : Core) : (core.pushAll words).xmm = core.xmm := by
  induction words generalizing core with
  | nil => rfl
  | cons word words ih => exact ih (core.push word)

variable {words}

/-- **What was pushed lies at the stack pointer, the last word first.** -/
theorem holds_pushAll {core : Core} {below : List Word} (holds : core.memory.Holds core.rsp below)
    (fits : 8 * (words.length + below.length) < 2 ^ 64) :
    (core.pushAll words).memory.Holds (core.pushAll words).rsp (words.reverse ++ below) := by
  induction words generalizing core below with
  | nil => exact holds
  | cons word words ih =>
      rw [List.length_cons] at fits
      rw [List.reverse_cons, List.append_assoc]
      refine ih (holds.store (by omega) word) ?_
      rw [List.length_append, List.length_singleton]
      omega

end Core

namespace Instruction

theorem steps_pushValue (core : Core) (words : List Word) :
    steps core (words.map .pushValue) = some (core.pushAll words) := by
  induction words generalizing core with
  | nil => rfl
  | cons word words ih => exact ih (core.push word)

theorem steps_push {l : List Register} (spared : .rsp ∉ l) (core : Core) :
    steps core (l.map .push) = some (core.pushAll (l.map core.gpr)) := by
  induction l generalizing core with
  | nil => rfl
  | cons r l ih =>
      rw [List.mem_cons, not_or] at spared
      have same : l.map (core.push (core.gpr r)).gpr = l.map core.gpr :=
        List.map_congr_left fun s mem =>
          core.gpr_push_of_ne (fun stack => spared.2 (stack ▸ mem)) _
      rw [List.map_cons, steps_cons rfl, ih spared.2, same]
      rfl

/-- **Pops restore the registers for which words lie at the stack pointer**, and move it behind
these. -/
theorem steps_pop {l : List Register} (spared : .rsp ∉ l) {content : Register → Word}
    (holds : core.memory.Holds core.rsp (l.map content)) :
    ∃ gpr, steps core (l.map .pop) = some { core with gpr := gpr } ∧
      gpr .rsp = core.rsp + BitVec.ofNat 64 (8 * l.length) ∧
      (∀ r ∈ l, gpr r = content r) ∧ ∀ r ∉ l, r ≠ .rsp → gpr r = core.gpr r := by
  induction l generalizing core with
  | nil =>
      exact ⟨core.gpr, rfl, (BitVec.add_zero _).symm, fun _ mem => absurd mem List.not_mem_nil,
        fun _ _ _ => rfl⟩
  | cons r l ih =>
      rw [List.mem_cons, not_or] at spared
      let next := (core.setGpr .rsp (core.rsp + 8)).setGpr r (core.atStack 0)
      have first : step core (.pop r) = some next := rfl
      have moved : next.rsp = core.rsp + 8 := Core.rsp_setGpr_of_ne _ spared.1 _
      have popped : next.gpr r = content r :=
        (Core.gpr_setGpr_self _ _ _).trans (core.atStack_zero.trans holds.1)
      have rest : next.memory.Holds next.rsp (l.map content) := moved ▸ holds.2
      obtain ⟨gpr, executed, stack, restored, kept⟩ := ih spared.2 rest
      refine ⟨gpr, (steps_cons first).trans executed, ?_, List.forall_mem_cons.2 ⟨?_, restored⟩,
        fun s notMem other => ?_⟩
      · rw [stack, moved, List.length_cons]
        bv_omega
      · by_cases later : r ∈ l
        · exact restored r later
        · exact (kept r later (Ne.symm spared.1)).trans popped
      · rw [List.mem_cons, not_or] at notMem
        exact (kept s notMem.2 other).trans <|
          (Core.gpr_setGpr_of_ne _ notMem.1 _).trans (Core.gpr_setGpr_of_ne _ other _)

end Instruction

end VtxMonitor
