import VtxMonitor.Proofs.Machine.CodeTrace

/-!
# Proofs/Machine/InterruptEntry — host interrupts are transparent

The entries of the vectors push different words.  They expect an error code exactly where the
processor pushes one (`expectsErrorCode_iff`), so behind their pushes the same trap frame lies on
the stack (`pushAll_entryPushes`).  The code that all of them share saves the volatile registers
below it, calls the interrupt routine on an aligned stack and restores what it saved
(`steps_interruptPrologue`, `steps_interruptEpilogue`).  **The interrupted code finds its registers
and the frame that the processor pushed as they were** (`interruptEntry_transparent`), whatever its
stack pointer was, and the entry of each vector lies where the interrupt gate leads
(`entryAddress_eq`).
-/

namespace VtxMonitor

open Memory (AgreesOn)

variable {core called : Core} {vector : BitVec 8} {pushed : Option Word}

/-! ## The table of entries -/

theorem alignUp16_add {start size : Nat} (aligned : start % 16 = 0) (positive : 0 < size)
    (fits : size ≤ 16) : alignUp16 (start + size) = start + 16 := by
  rw [alignUp16]
  omega

/-- The pushes of an entry leave room for any jump. -/
theorem entryPushesSize_le (vector : BitVec 8) :
    0 < entryPushesSize vector ∧ entryPushesSize vector ≤ 7 := by
  have size (value : Word) : pushSize value = 2 ∨ pushSize value = 5 := by
    rw [pushSize]
    split
    · exact .inl rfl
    · exact .inr rfl
  have zero : pushSize 0 = 2 := rfl
  have last := size (vector.setWidth 64)
  rw [entryPushesSize, entryPushes]
  split
  · simp only [List.nil_append, List.foldl_cons, List.foldl_nil]
    omega
  · simp only [List.cons_append, List.nil_append, List.foldl_cons, List.foldl_nil]
    omega

/-- **The entries of a table lie 16 bytes apart**, whatever sizes their jumps have. -/
theorem entryAddress_eq {table : Nat} (aligned : table % 16 = 0) {jumpSize : Nat → Nat}
    (sizes : ∀ n, jumpSize n = 2 ∨ jumpSize n = 5) (n : Nat) :
    entryAddress table jumpSize n = table + 16 * n := by
  induction n with
  | zero =>
      rw [entryAddress, alignUp16]
      omega
  | succ n ih =>
      obtain ⟨positive, fits⟩ := entryPushesSize_le (BitVec.ofNat 8 n)
      have jump : jumpSize n = 2 ∨ jumpSize n = 5 := sizes n
      rw [entryAddress, ih, Nat.add_assoc, alignUp16_add (by omega) (by omega) (by omega)]
      omega

theorem toNat_interruptEntryPoint (vector : BitVec 8) :
    (Machine.interruptEntryPoint vector).toNat
      = Machine.interruptEntryPoints.toNat + 16 * vector.toNat := by
  have bound := vector.isLt
  rw [Machine.interruptEntryPoint, Machine.interruptEntryPoints, Machine.interruptEntrySize]
  bv_omega

/-! ## The trap frame -/

namespace TrapFrame

/-- The words of a trap frame, from the stack pointer upwards. -/
def words (frame : TrapFrame) : List Word :=
  [frame.vector, frame.errorCode, frame.rip, frame.cs, frame.rflags, frame.rsp, frame.ss]

theorem load_of_holds {frame : TrapFrame} {memory : Memory} {address : Word}
    (holds : memory.Holds address frame.words) : load memory address = frame := by
  obtain ⟨vector, errorCode, rip, cs, rflags, rsp, ss, -⟩ := holds
  simp only [BitVec.add_assoc] at rip cs rflags rsp ss
  exact TrapFrame.ext vector errorCode rip cs rflags rsp ss

end TrapFrame

/-- The trap frame of an interrupt: the vector, the error code if one is pushed, and the rest of
what the processor pushes. -/
def TrapFrame.delivered (frame : TrapFrame) (vector : BitVec 8) (pushed : Option Word) :
    TrapFrame :=
  { frame with
    vector := vector.setWidth 64
    errorCode := pushed.getD 0 }

/-- **The entries expect an error code exactly where the processor pushes one.** -/
theorem expectsErrorCode_iff (vector : BitVec 8) :
    expectsErrorCode vector = true ↔ vector ∈ vectorsWithErrorCode := by
  simp only [expectsErrorCode, vectorsWithErrorCode, Bool.or_eq_true, Bool.and_eq_true,
    beq_iff_eq, decide_eq_true_iff, List.mem_cons, List.not_mem_nil, or_false, ge_iff_le]
  bv_omega

/-- **Behind the pushes of its entry, every vector has the same frame on the stack.** -/
theorem pushAll_entryPushes (core : Core) (frame : TrapFrame)
    (expected : expectsErrorCode vector = pushed.isSome) :
    (Session.pushInterruptFrame core frame pushed).pushAll (entryPushes vector)
      = core.pushAll (frame.delivered vector pushed).words.reverse := by
  rw [entryPushes, expected, TrapFrame.delivered]
  cases pushed <;> rfl

/-! ## Saving and restoring -/

/-- At the call of the interrupt routine, everything is saved that the routine may change: the
volatile registers and `rbp` lie at the address in `rbp` with the trap frame behind them, and the
XMM registers at the stack pointer. -/
structure Core.SavedForInterrupt (core : Core) (trap : TrapFrame) (called : Core) : Prop where
  aligned : isAligned16 called.rsp = true
  lower : 0x100 ≤ (called.gpr .rbp - called.rsp).toNat
  upper : (called.gpr .rbp - called.rsp).toNat < 0x110
  top : called.gpr .rbp = core.rsp - 0x88
  frame : called.gpr .rdi = called.gpr .rbp + 0x50
  holds : called.memory.Holds (called.gpr .rbp)
    (interruptSaved.reverse.map core.gpr ++ trap.words)
  xmm : ∀ i, called.memory.loadWide (called.rsp + xmmOffset i) = core.xmm i
  others : ∀ r ∉ [Register.rsp, .rbp, .rdi], called.gpr r = core.gpr r

namespace Instruction

/-- The frame is completed and the volatile registers are pushed below it. -/
theorem steps_pushInterrupted (core : Core) (frame : TrapFrame)
    (expected : expectsErrorCode vector = pushed.isSome) :
    ∃ saved, steps (Session.pushInterruptFrame core frame pushed)
        ((entryPushes vector).map .pushValue ++ interruptSaved.map .push) = some saved ∧
      saved.rsp = core.rsp - 0x88 ∧
      saved.memory.Holds saved.rsp (interruptSaved.reverse.map core.gpr ++
        (frame.delivered vector pushed).words) ∧
      saved.xmm = core.xmm ∧ ∀ r ≠ .rsp, saved.gpr r = core.gpr r := by
  let trap := frame.delivered vector pushed
  let core₁ := core.pushAll trap.words.reverse
  let core₂ := core₁.pushAll (interruptSaved.map core₁.gpr)
  have framed : core₁.memory.Holds core₁.rsp (trap.words.reverse.reverse ++ []) :=
    Core.holds_pushAll trivial (show 8 * (7 + 0) < 2 ^ 64 by decide)
  rw [List.reverse_reverse, List.append_nil] at framed
  have registers : core₂.memory.Holds core₂.rsp
      ((interruptSaved.map core₁.gpr).reverse ++ trap.words) :=
    Core.holds_pushAll framed (show 8 * (10 + 7) < 2 ^ 64 by decide)
  have same : interruptSaved.map core₁.gpr = interruptSaved.map core.gpr :=
    List.map_congr_left fun r mem =>
      core.gpr_pushAll_of_ne _ (fun stack => absurd (stack ▸ mem) (by decide))
  rw [same, ← List.map_reverse] at registers
  have completed : steps (Session.pushInterruptFrame core frame pushed)
      ((entryPushes vector).map .pushValue) = some core₁ := by
    rw [steps_pushValue, pushAll_entryPushes core frame expected]
  have top : core₁.rsp = core.rsp - 0x38 := core.rsp_pushAll _
  have bottom : core₂.rsp = core₁.rsp - 0x50 := core₁.rsp_pushAll _
  refine ⟨core₂, steps_trans completed (steps_push (by decide) core₁), ?_, registers, ?_,
    fun r other => ?_⟩
  · rw [bottom, top]
    bv_omega
  · exact (core₁.xmm_pushAll _).trans (core.xmm_pushAll _)
  · exact (core₁.gpr_pushAll_of_ne _ other).trans (core.gpr_pushAll_of_ne _ other)

/-- The stack is aligned for the call, and `rbp` keeps where it was. -/
theorem steps_realign (core : Core) :
    ∃ called, steps core ([.addressOf .rdi trapFrameOffset, .move .rbp .rsp, .align,
        .reserve xmmAreaSize] ++ saveXmmRegisters) = some called ∧
      called.rsp = (core.rsp &&& ~~~0xf) - 0x100 ∧ called.gpr .rbp = core.rsp ∧
      called.gpr .rdi = core.rsp + 0x50 ∧
      (∀ r ∉ [Register.rsp, .rbp, .rdi], called.gpr r = core.gpr r) ∧
      called.memory = core.memory.storeXmm called.rsp core.xmm := by
  let core₁ := core.setGpr .rdi (core.rsp + trapFrameOffset)
  let core₂ := core₁.setGpr .rbp core₁.rsp
  let core₃ := core₂.setGpr .rsp (core₂.rsp &&& ~~~0xf)
  let core₄ := core₃.setGpr .rsp (core₃.rsp - xmmAreaSize)
  have moved : steps core [.addressOf .rdi trapFrameOffset, .move .rbp .rsp, .align,
      .reserve xmmAreaSize] = some core₄ := rfl
  have down := toNat_and_not_15 core.rsp
  have aligned : isAligned16 core₄.rsp = true := by
    rw [isAligned16_iff]
    change ((core.rsp &&& ~~~0xf) - 0x100).toNat % 16 = 0
    bv_omega
  refine ⟨_, steps_trans moved (steps_saveXmm aligned), rfl, rfl, rfl, fun r other => ?_, rfl⟩
  simp only [List.mem_cons, List.not_mem_nil, or_false, not_or] at other
  obtain ⟨stack, base, pointer⟩ := other
  exact (core₃.gpr_setGpr_of_ne stack _).trans <| (core₂.gpr_setGpr_of_ne stack _).trans <|
    (core₁.gpr_setGpr_of_ne base _).trans <| core.gpr_setGpr_of_ne pointer _

theorem steps_interruptPrologue (core : Core) (frame : TrapFrame)
    (expected : expectsErrorCode vector = pushed.isSome) :
    ∃ called, steps (Session.pushInterruptFrame core frame pushed) (interruptPrologue vector)
          = some called ∧
      core.SavedForInterrupt (frame.delivered vector pushed) called := by
  obtain ⟨saved, completed, top, holds, xmm, registers⟩ :=
    steps_pushInterrupted core frame expected
  obtain ⟨called, realigned, stack, base, pointer, others, memory⟩ := steps_realign saved
  have executed := steps_trans completed realigned
  rw [← List.append_assoc] at executed
  have down := toNat_and_not_15 saved.rsp
  have kept : AgreesOn saved.rsp 0x88 saved.memory called.memory := by
    have below : (called.rsp - saved.rsp).toNat = 2 ^ 64 - (0x100 + saved.rsp.toNat % 16) := by
      rw [stack]
      bv_omega
    rw [memory]
    exact Memory.agreesOn_storeXmm (by omega) (by omega)
  refine ⟨called, executed, ?_⟩
  exact
    { aligned := by
        rw [isAligned16_iff, stack]
        bv_omega
      lower := by
        rw [base, stack]
        bv_omega
      upper := by
        rw [base, stack]
        bv_omega
      top := base.trans top
      frame := base ▸ pointer
      holds := by
        rw [base]
        exact holds.of_agreesOn kept (by rw [BitVec.sub_self]; exact Nat.le_refl _) (by decide)
      xmm := fun i => by
        rw [memory, ← xmm]
        exact saved.memory.loadWide_storeXmm _ i
      others := fun r other =>
        (others r other).trans (registers r fun same => other (same ▸ List.mem_cons_self)) }

/-- XMM registers, then the registers for which words lie at `rbp`, are restored, and the vector and
the error code behind these are dropped. -/
theorem steps_interruptEpilogue (core : Core) (aligned : isAligned16 core.rsp = true)
    {content : Register → Word}
    (holds : core.memory.Holds (core.gpr .rbp) (interruptSaved.reverse.map content)) :
    ∃ restored, steps core interruptEpilogue = some restored ∧
      restored.rsp = core.gpr .rbp + 0x60 ∧ restored.memory = core.memory ∧
      (∀ i, restored.xmm i = core.memory.loadWide (core.rsp + xmmOffset i)) ∧
      (∀ r ∈ interruptSaved, restored.gpr r = content r) ∧
      ∀ r ∉ interruptSaved, r ≠ .rsp → restored.gpr r = core.gpr r := by
  let core₁ : Core := { core with xmm := fun i => core.memory.loadWide (core.rsp + xmmOffset i) }
  let core₂ := core₁.setGpr .rsp (core₁.gpr .rbp)
  have spared : Register.rsp ∉ interruptSaved.reverse := by decide
  have words : core₂.memory.Holds core₂.rsp (interruptSaved.reverse.map content) := holds
  obtain ⟨gpr, popped, stack, saved, kept⟩ := steps_pop spared words
  let core₃ : Core := { core₂ with gpr := gpr }
  let core₄ := core₃.setGpr .rsp (core₃.rsp + 0x10)
  have loadedXmm : steps core restoreXmmRegisters = some core₁ := steps_restoreXmm aligned
  have moved : steps core₁ [.move .rsp .rbp] = some core₂ := rfl
  have freed : steps core₃ [.free 0x10] = some core₄ := rfl
  refine ⟨core₄, steps_trans (steps_trans (steps_trans loadedXmm moved) popped) freed, ?_, rfl,
    fun _ => rfl, fun r mem => ?_, fun r notMem other => ?_⟩
  · have behind : core₃.rsp = core.gpr .rbp + 0x50 := stack
    change core₃.rsp + 0x10 = _
    rw [behind]
    bv_omega
  · have other : r ≠ .rsp := fun same => absurd (same ▸ mem) (by decide)
    exact (core₃.gpr_setGpr_of_ne other _).trans (saved r (List.mem_reverse.2 mem))
  · refine (core₃.gpr_setGpr_of_ne other _).trans ?_
    refine (kept r (fun mem => notMem (List.mem_reverse.1 mem)) other).trans ?_
    exact core₁.gpr_setGpr_of_ne other _

end Instruction

/-- **The interrupted code finds what was saved again**, and what the processor pushed at the stack
pointer, whatever the routine does to the volatile registers. -/
theorem Core.SavedForInterrupt.restores {trap : TrapFrame}
    (saved : core.SavedForInterrupt trap called) (scratch : Core) :
    ∃ restored, Instruction.steps (Core.afterCall scratch called) interruptEpilogue
        = some restored ∧
      restored.rsp = core.rsp - 0x28 ∧
      restored.memory.Holds (core.rsp - 0x38) trap.words ∧ restored.xmm = core.xmm ∧
      ∀ r ≠ .rsp, restored.gpr r = core.gpr r := by
  let left := Core.afterCall scratch called
  have stack : left.rsp = called.rsp := scratch.rsp_afterCall called
  have base : left.gpr .rbp = called.gpr .rbp := scratch.gpr_afterCall_of_not_mem called (by decide)
  have kept : AgreesOn called.rsp (2 ^ 63) called.memory left.memory :=
    scratch.agreesOn_afterCall called
  have holds : left.memory.Holds (left.gpr .rbp)
      (interruptSaved.reverse.map core.gpr ++ trap.words) := by
    have upper := saved.upper
    have words : (interruptSaved.reverse.map core.gpr ++ trap.words).length = 17 := rfl
    rw [base]
    exact saved.holds.of_agreesOn kept (by omega) (by decide)
  obtain ⟨restored, executed, top, memory, xmm, popped, others⟩ :=
    Instruction.steps_interruptEpilogue left (stack ▸ saved.aligned) holds.left
  refine ⟨restored, executed, ?_, ?_, funext fun i => ?_, fun r other => ?_⟩
  · rw [top, base, saved.top]
    bv_omega
  · have frame := holds.right
    have address : left.gpr .rbp
        + BitVec.ofNat 64 (8 * (interruptSaved.reverse.map core.gpr).length)
          = core.rsp - 0x38 := by
      change left.gpr .rbp + 0x50 = _
      rw [base, saved.top]
      bv_omega
    rw [memory, ← address]
    exact frame
  · have area : AgreesOn called.rsp 0x100 called.memory left.memory :=
      kept.part (by rw [BitVec.sub_self]; decide)
    rw [xmm, stack, area.loadXmm i, saved.xmm]
  · by_cases mem : r ∈ interruptSaved
    · exact popped r mem
    · have clean : r ∉ volatileRegisters := fun volatile => mem (List.mem_cons_of_mem _ volatile)
      have apart : r ∉ [Register.rsp, .rbp, .rdi] := by
        simp only [List.mem_cons, List.not_mem_nil, or_false]
        rintro (rfl | rfl | rfl)
        · exact other rfl
        · exact mem (by decide)
        · exact mem (by decide)
      rw [others r mem other]
      exact (scratch.gpr_afterCall_of_not_mem called clean).trans (saved.others r apart)

/-! ## The interrupt routine -/

namespace Core.SavedForInterrupt

variable {trap : TrapFrame} (saved : core.SavedForInterrupt trap called)
include saved

/-- The routine is given the trap frame. -/
theorem load_trap : TrapFrame.load called.memory (called.gpr .rdi) = trap := by
  have behind := saved.holds.right
  have address : called.gpr .rbp
      + BitVec.ofNat 64 (8 * (interruptSaved.reverse.map core.gpr).length)
        = called.gpr .rdi := saved.frame.symm
  rw [address] at behind
  exact TrapFrame.load_of_holds behind

/-- **The routine handles the trap frame**, unless that lies at address 0. -/
theorem handleInterruptRoutine_eq (elsewhere : core.rsp ≠ 0x38) (session : Session Machine) :
    session.handleInterruptRoutine called = session.handleTrap trap := by
  have present : called.gpr .rdi ≠ 0 := by
    rw [saved.frame, saved.top]
    bv_omega
  exact (if_neg present).trans (congrArg session.handleTrap saved.load_trap)

end Core.SavedForInterrupt

/-! ## The code as a whole -/

theorem interruptEntry_eq (vector : BitVec 8) :
    interruptEntry vector = Code.plain (interruptPrologue vector) ++
      (.call .handleInterrupt :: (Code.plain interruptEpilogue ++ [.iretq])) := by
  rw [interruptEntry, List.append_assoc, List.append_assoc]
  rfl

/-- Between saving and restoring, the code calls the interrupt routine once, and then returns to the
interrupted code. -/
theorem interruptEntry_calls {delivered restored scratch : Core} {session : Session Machine}
    (prologue : Instruction.steps delivered (interruptPrologue vector) = some called)
    (aligned : isAligned16 called.rsp = true)
    (epilogue : Instruction.steps (Core.afterCall scratch called) interruptEpilogue
      = some restored) :
    let env := Session.routines scratch
    let session' := session.handleInterruptRoutine called
    (interruptEntry vector).events env delivered session
        = [⟨.call .handleInterrupt, called, session⟩, ⟨.iretq, restored, session'⟩] ∧
      (interruptEntry vector).run env delivered session = (.interrupted restored, session') := by
  intro env session'
  have returns : env.call .handleInterrupt called session
      = (some (Core.afterCall scratch called), session') := rfl
  constructor
  · rw [interruptEntry_eq, Code.events_plain prologue, Code.events_call_returns aligned returns,
      Code.events_plain epilogue]
    rfl
  · rw [interruptEntry_eq, Code.run_plain prologue, Code.run_call_returns aligned returns,
      Code.run_plain epilogue]
    rfl

/-- **Host interrupts are transparent.**  For every vector, every stack pointer and every content of
the registers, where the processor pushes an error code exactly for the vectors that are listed: the
entry of the vector lies where its gate leads, whatever sizes the jumps in the table have; every
step is aligned; and the interrupt routine is called once, with the trap frame of the interrupt.
When it returns, IRETQ is executed with the stack pointer at what the processor pushed, and with all
other registers as they were.  The routine handles the frame unless it lies at address 0, where it
never lies on the stack that a processor has aligned before it pushes anything. -/
theorem interruptEntry_transparent (vector : BitVec 8) (core scratch : Core) (frame : TrapFrame)
    (errorCode : Word) (session : Session Machine) :
    let env := Session.routines scratch
    let pushed : Option Word :=
      if vector ∈ [8, 10, 11, 12, 13, 14, 17, 21, 29, 30] then some errorCode else none
    let delivered := Session.pushInterruptFrame core frame pushed
    let trap := frame.delivered vector pushed
    (∀ jumpSize : Nat → Nat, (∀ n, jumpSize n = 2 ∨ jumpSize n = 5) →
        entryAddress Machine.interruptEntryPoints.toNat jumpSize vector.toNat
          = (Machine.interruptEntryPoint vector).toNat) ∧
      (∀ moment ∈ (interruptEntry vector).trace env delivered session, moment.isAligned = true) ∧
      ∃ called restored session',
        (interruptEntry vector).events env delivered session
            = [⟨.call .handleInterrupt, called, session⟩, ⟨.iretq, restored, session'⟩] ∧
          (interruptEntry vector).run env delivered session = (.interrupted restored, session') ∧
          TrapFrame.load called.memory (called.gpr .rdi) = trap ∧
          (isAligned16 core.rsp = true ∨ core.rsp ≠ 0x38 → session' = session.handleTrap trap) ∧
          restored.rsp = core.rsp - 0x28 ∧
          restored.memory.Holds restored.rsp
            [frame.rip, frame.cs, frame.rflags, frame.rsp, frame.ss] ∧
          (∀ r ≠ .rsp, restored.gpr r = core.gpr r) ∧ restored.xmm = core.xmm := by
  intro env pushed delivered trap
  have expected : expectsErrorCode vector = pushed.isSome := by
    rw [Bool.eq_iff_iff, expectsErrorCode_iff, Option.isSome_ite]
    rfl
  obtain ⟨called, prologue, saved⟩ :=
    Instruction.steps_interruptPrologue core frame expected
  obtain ⟨restored, epilogue, top, holds, xmm, registers⟩ := saved.restores scratch
  obtain ⟨events, run⟩ := interruptEntry_calls prologue saved.aligned epilogue
  refine ⟨fun jumpSize sizes => ?_, Code.isAligned_of_trace ?_, called, restored, _, events, run,
    saved.load_trap, fun apart => ?_, top, ?_, registers, xmm⟩
  · rw [entryAddress_eq (by decide) sizes, toNat_interruptEntryPoint]
  · rw [run]
    simp
  · have elsewhere : core.rsp ≠ 0x38 :=
      apart.elim (fun aligned same => absurd (same ▸ aligned) (by decide)) id
    exact saved.handleInterruptRoutine_eq elsewhere session
  · have pushed : core.rsp - 0x38 + 8 + 8 = restored.rsp := by
      rw [top]
      bv_omega
    exact pushed ▸ holds.2.2

/-- A page fault and an interrupt without an error code, on a stack that is not aligned and wraps
around. -/
theorem interruptEntry_transparent_wrapping :
    let core : Core := .forTrial ⟨fun r => r.number.setWidth 64⟩ 0x1c .zero
    let frame : TrapFrame := { rip := 0x1000, cs := 8, rflags := 2, rsp := 0x1c, ss := 0x10 }
    let session : Session Machine := { processor := {}, journal := .empty none }
    ∀ vector ∈ [(14 : BitVec 8), 0x80],
      let pushed : Option Word := if vector = 14 then some 3 else none
      let delivered := Session.pushInterruptFrame core frame pushed
      let ended := (interruptEntry vector).run (Session.routines trialScratch) delivered session
      ended.2 = session.handleTrap (frame.delivered vector pushed) ∧
        ∃ restored, ended.1 = .interrupted restored ∧
          restored.rsp = 0xfffffffffffffff4 ∧ restored.atStack 0 = 0x1000 ∧
          restored.gpr .r9 = 9 ∧ restored.gpr .r12 = 12 ∧ restored.xmm = trialXmm := by
  intro core frame session vector mem pushed delivered ended
  have same : pushed
      = if vector ∈ [8, 10, 11, 12, 13, 14, 17, 21, 29, 30] then some 3 else none := by
    simp only [List.mem_cons, List.not_mem_nil, or_false] at mem
    obtain rfl | rfl := mem <;> decide
  obtain ⟨-, -, called, restored, session', -, run, -, handled, top, holds, registers, xmm⟩ :=
    interruptEntry_transparent vector core trialScratch frame 3 session
  rw [← same] at run handled
  exact ⟨(congrArg Prod.snd run).trans (handled (.inr (by decide))), restored,
    congrArg Prod.fst run, top, restored.atStack_zero.trans holds.1, registers .r9 (by decide),
    registers .r12 (by decide), xmm⟩

end VtxMonitor
