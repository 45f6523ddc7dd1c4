import VtxMonitor.Proofs.Host.StateArea
import VtxMonitor.Proofs.Machine.CodeTrace

/-!
# Proofs/Machine/ExitEntry — the VM-exit entry point is a call of the dispatch

The code at the VM-exit entry point saves the guest's registers below the host stack pointer, calls
the exit routine on an aligned stack and loads the registers again.  `steps_exitPrologue` and
`steps_exitEpilogue` say what the two halves do, and the host stack that was prepared for a virtual
processor leads the routine to it.  **The code is equivalent to a call of the dispatch on the
guest's registers** (`exitEntry_refines_handleExit`).
-/

namespace VtxMonitor

open Memory (AgreesOn)

variable {core called : Core}

/-! ## Saving and loading -/

/-- At the call of the exit routine, everything is saved that a VM-exit leaves in the registers of a
core, and nothing above the stack pointer has changed. -/
structure Core.SavedForExit (core called : Core) : Prop where
  rsp : called.rsp = core.rsp - 0x188
  vcpu : called.gpr .rdi = core.memory.load (core.rsp + 8)
  registers : called.gpr .rsi = core.rsp - 0x80
  guest : GuestRegisters.load called.memory (core.rsp - 0x80) = core.guestRegisters
  xmm : ∀ i, called.memory.loadWide (called.rsp + xmmOffset i) = core.xmm i
  above : AgreesOn core.rsp (2 ^ 63) core.memory called.memory

theorem Core.guestRegisters_setGpr_rsp (core : Core) (value : Word) :
    (core.setGpr .rsp value).guestRegisters = core.guestRegisters := by
  refine GuestRegisters.ext (funext fun r => ?_)
  by_cases stack : r = .rsp
  · subst stack
    rfl
  · refine (GuestRegisters.get_set_of_ne _ _ stack).trans (Eq.trans ?_
      (GuestRegisters.get_set_of_ne _ _ stack).symm)
    exact core.gpr_setGpr_of_ne stack value

namespace Instruction

theorem steps_exitPrologue (core : Core) (aligned : isAligned16 (core.rsp - 0x188) = true) :
    ∃ called, steps core exitPrologue = some called ∧ core.SavedForExit called := by
  let core₁ := core.setGpr .rsp (core.rsp - guestRegistersSize)
  let core₂ : Core :=
    { core₁ with memory := core.guestRegisters.store core.memory (core.rsp - 0x80) }
  let core₃ := core₂.setGpr .rsp (core₂.rsp - exitXmmFrame)
  let core₄ : Core := { core₃ with memory := core₃.memory.storeXmm core₃.rsp core₃.xmm }
  let core₅ := core₄.setGpr .rdi (core₄.atStack vcpuPointerOffset)
  let called := core₅.setGpr .rsi (core₅.rsp + exitXmmFrame)
  have rsp : core₃.rsp = core.rsp - 0x188 := by
    change core.rsp - 0x80 - 0x108 = core.rsp - 0x188
    bv_omega
  have reserved : steps core [.reserve guestRegistersSize] = some core₁ := rfl
  have saved : steps core₁ (Register.all.map saveGuestRegister) = some core₂ := by
    have guest : core₁.guestRegisters = core.guestRegisters := core.guestRegisters_setGpr_rsp _
    rw [steps_saveGuest, guest]
    rfl
  have framed : steps core₂ [.reserve exitXmmFrame] = some core₃ := rfl
  have savedXmm : steps core₃ saveXmmRegisters = some core₄ := steps_saveXmm (rsp ▸ aligned)
  have passed : steps core₄ [.restore .rdi vcpuPointerOffset, .addressOf .rsi exitXmmFrame]
      = some called := rfl
  have executed : steps core exitPrologue = some called :=
    steps_trans (steps_trans (steps_trans (steps_trans reserved saved) framed) savedXmm) passed
  have keptByGuest : AgreesOn core.rsp (2 ^ 63) core.memory core₂.memory := by
    have below : (core.rsp - 0x80 - core.rsp).toNat = 2 ^ 64 - 0x80 := by bv_omega
    exact GuestRegisters.agreesOn_store _ (below ▸ by decide) (below ▸ by decide)
  have above : AgreesOn core.rsp (2 ^ 63) core.memory called.memory := by
    have below : (core₃.rsp - core.rsp).toNat = 2 ^ 64 - 0x188 := by
      rw [rsp]
      bv_omega
    exact keptByGuest.trans
      (Memory.agreesOn_storeXmm (below ▸ by decide) (below ▸ by decide))
  -- above the XMM registers and the guest's registers comes the slot that a VM-exit finds at `rsp`,
  -- and above that the pointer
  have pointer : core₄.rsp + vcpuPointerOffset = core.rsp + 8 := by
    change core.rsp - 0x80 - 0x108 + 0x190 = core.rsp + 8
    bv_omega
  have vcpu : called.gpr .rdi = core₄.atStack vcpuPointerOffset :=
    (core₅.gpr_setGpr_of_ne (by decide) _).trans (core₄.gpr_setGpr_self _ _)
  have stack : called.rsp = core.rsp - 0x188 := rsp
  have memory : called.memory = core₂.memory.storeXmm core₃.rsp core.xmm := rfl
  refine ⟨called, executed, ?_⟩
  exact
    { rsp := stack
      vcpu := by
        rw [vcpu, Core.atStack, pointer]
        exact above.load (by rw [toNat_add_sub_self]; decide)
      registers := by
        change core₃.rsp + 0x108 = _
        rw [rsp]
        bv_omega
      guest := by
        have below : (core₃.rsp - (core.rsp - 0x80)).toNat = 2 ^ 64 - 0x108 := by
          rw [rsp]
          bv_omega
        have kept : AgreesOn (core.rsp - 0x80) 0x80 core₂.memory
            (core₂.memory.storeXmm core₃.rsp core.xmm) :=
          Memory.agreesOn_storeXmm (below ▸ by decide) (below ▸ by decide)
        rw [memory, GuestRegisters.load_of_agreesOn kept]
        exact core.guestRegisters.load_store core.memory (core.rsp - 0x80)
      xmm := fun i => by
        rw [stack, memory, rsp]
        exact core₂.memory.loadWide_storeXmm _ i
      above := above }

theorem steps_exitEpilogue (core : Core) (aligned : isAligned16 core.rsp = true) :
    ∃ loaded, steps core exitEpilogue = some loaded ∧ loaded.rsp = core.rsp + 0x188 ∧
      (∀ i, loaded.xmm i = core.memory.loadWide (core.rsp + xmmOffset i)) ∧
      ∀ r ≠ .rsp, loaded.gpr r = (GuestRegisters.load core.memory (core.rsp + 0x108)).get r := by
  let core₁ : Core := { core with xmm := fun i => core.memory.loadWide (core.rsp + xmmOffset i) }
  let core₂ := core₁.setGpr .rsp (core.rsp + 0x108)
  obtain ⟨gpr, loaded, stack, registers⟩ := steps_restoreGuest core₂
  let core₃ : Core := { core₂ with gpr := gpr }
  let core₄ := core₃.setGpr .rsp (core₃.rsp + 0x80)
  have loadedXmm : steps core restoreXmmRegisters = some core₁ := steps_restoreXmm aligned
  have unframed : steps core₁ [.free exitXmmFrame] = some core₂ := rfl
  have freed : steps core₃ [.free guestRegistersSize] = some core₄ := rfl
  have executed : steps core exitEpilogue = some core₄ :=
    steps_trans (steps_trans (steps_trans loadedXmm unframed) loaded) freed
  refine ⟨core₄, executed, ?_, fun _ => rfl, fun r other => ?_⟩
  · have moved : core₃.rsp = core.rsp + 0x108 := stack
    change core₃.rsp + 0x80 = _
    rw [moved]
    bv_omega
  · exact (core₃.gpr_setGpr_of_ne other _).trans (registers r other)

end Instruction

/-- **What a routine leaves in the guest's registers is loaded again**, and the XMM registers and
the stack pointer are what they were at the VM-exit, whatever the routine did to them. -/
theorem Core.SavedForExit.loads_back (saved : core.SavedForExit called)
    (aligned : isAligned16 called.rsp = true) (regs : GuestRegisters) (scratch : Core) :
    let left := Core.afterCall scratch called
    let returned : Core := { left with memory := regs.store left.memory (called.gpr .rsi) }
    ∃ resumed, Instruction.steps returned exitEpilogue = some resumed ∧
      resumed.rsp = core.rsp ∧ resumed.xmm = core.xmm ∧
      ∀ r ≠ .rsp, resumed.gpr r = regs.get r := by
  intro left returned
  have stack : returned.rsp = called.rsp := scratch.rsp_afterCall called
  have registers : called.gpr .rsi = called.rsp + 0x108 := by
    rw [saved.registers, saved.rsp]
    bv_omega
  have keptXmm : AgreesOn called.rsp 0x100 called.memory returned.memory := by
    have behind : (called.gpr .rsi - called.rsp).toNat = 0x108 := by
      rw [registers, toNat_add_sub_self]
      rfl
    exact ((scratch.agreesOn_afterCall called).part (by rw [BitVec.sub_self]; decide)).trans
      (regs.agreesOn_store (behind ▸ by decide) (behind ▸ by decide))
  obtain ⟨resumed, executed, top, xmm, loaded⟩ :=
    Instruction.steps_exitEpilogue returned (stack ▸ aligned)
  rw [stack] at top xmm loaded
  refine ⟨resumed, executed, ?_, funext fun i => ?_, fun r other => ?_⟩
  · rw [top, saved.rsp]
    bv_omega
  · rw [xmm, keptXmm.loadXmm i, saved.xmm]
  · rw [loaded r other, ← registers]
    exact congrArg (GuestRegisters.get · r) (regs.load_store _ _)

/-! ## The exit routine -/

namespace Session

section HandleExit

variable {vcpu : Vcpu} {session session' : Session Machine} {regs : GuestRegisters}
  (scratch : Core) (found : session.vcpu = some vcpu) (owner : core.gpr .rdi = vcpu.address)
  (present : core.gpr .rsi ≠ 0)

include owner present in
private theorem owned : ¬(core.gpr .rdi ≠ vcpu.address ∨ core.gpr .rsi = 0) :=
  fun unknown => unknown.elim (fun other => other owner) present

include found owner present

/-- A virtual processor whose stack is damaged is not served any more. -/
theorem handleExitRoutine_of_damaged
    (damaged : core.memory.load vcpu.memory.markerSlot ≠ stackMarker) :
    session.handleExitRoutine scratch core
      = (none, (session.report (.stackCorrupted vcpu.index)).halt) := by
  simp only [handleExitRoutine, found, if_neg (owned owner present), if_pos damaged]

variable (intact : core.memory.load vcpu.memory.markerSlot = stackMarker)
include intact

/-- Behind an error of the dispatch, the routine does not return. -/
theorem handleExitRoutine_of_error {error : Error}
    (dispatched : session.run Machine.hardware
      (vcpu.handleExit.start (.load core.memory (core.gpr .rsi)))
        = ((.error error, regs), session')) :
    session.handleExitRoutine scratch core
      = (none, (session'.report (.fatalExit vcpu.index error)).breakAndHalt) := by
  simp only [handleExitRoutine, found, if_neg (owned owner present),
    if_neg (Decidable.not_not.2 intact), dispatched]

/-- Otherwise it returns with what the dispatch leaves in the guest's registers. -/
theorem handleExitRoutine_of_ok {exitType : ExitType}
    (dispatched : session.run Machine.hardware
      (vcpu.handleExit.start (.load core.memory (core.gpr .rsi)))
        = ((.ok exitType, regs), session')) :
    session.handleExitRoutine scratch core
      = let left := Core.afterCall scratch core
        (some { left with memory := regs.store left.memory (core.gpr .rsi) }, session') := by
  simp only [handleExitRoutine, found, if_neg (owned owner present),
    if_neg (Decidable.not_not.2 intact), dispatched]

end HandleExit

end Session

/-! ## The host stack -/

/-- A VM-exit of the virtual processor `vcpu` after its host state was built on `machine`.  By now
the virtual processor has become `current`, at the same address and with its memory in the same
place. -/
structure ExitsFrom (vcpu : Vcpu) (machine : Machine) (current : Vcpu)
    (session : Session Machine) (core : Core) : Prop where
  /-- The memory of a virtual processor is page-aligned and does not wrap around. -/
  aligned : vcpu.memory.base.toNat % 4096 = 0
  fits : vcpu.memory.base.toNat + VcpuMemory.size.toNat ≤ 2 ^ 64
  /-- The processor loads the stack pointer that was stored. -/
  rsp : core.rsp = (Machine.hardware.execute vcpu machine Vcpu.buildHostState).state.field .hostRsp
  /-- The slot above the stack holds what was prepared. -/
  pointer :
    let prepared := (Machine.hardware.execute vcpu machine Vcpu.buildHostState).record.memory
    core.memory.load prepared.vcpuSlot = prepared.vcpuPointer
  running : session.vcpu = some current
  address : current.address = vcpu.address
  base : current.memory.base = vcpu.memory.base

namespace ExitsFrom

variable {vcpu current : Vcpu} {machine : Machine} {session : Session Machine}
  (exit : ExitsFrom vcpu machine current session core)
include exit

theorem rsp_eq : core.rsp = vcpu.memory.base + 0x5fe8 := by
  obtain ⟨s', built, stored⟩ := machine.vmcsHolder.execute_buildHostState vcpu rfl
  have hostRsp : s'.field .hostRsp = vcpu.memory.hostRsp := stored _ _ rfl
  rw [exit.rsp, built, hostRsp, vcpu.memory.hostRsp_eq exit.aligned]

theorem toNat_rsp : core.rsp.toNat = vcpu.memory.base.toNat + 0x5fe8 := by
  rw [exit.rsp_eq, ← vcpu.memory.hostRsp_eq exit.aligned]
  exact vcpu.memory.toNat_hostRsp exit.aligned exit.fits

/-- The pointer to the virtual processor lies right above the stack pointer. -/
theorem load_pointer : core.memory.load (core.rsp + 8) = current.address := by
  obtain ⟨s', built, -⟩ := machine.vmcsHolder.execute_buildHostState vcpu rfl
  have pointer := exit.pointer
  rw [built] at pointer
  rw [exit.rsp_eq, ← vcpu.memory.hostRsp_eq exit.aligned, vcpu.memory.hostRsp_add_8 exit.aligned,
    exit.address]
  exact pointer

theorem markerSlot_eq : current.memory.markerSlot = core.rsp + 16 := by
  rw [exit.rsp_eq, ← vcpu.memory.hostRsp_eq exit.aligned,
    vcpu.memory.hostRsp_add_16 exit.aligned, VcpuMemory.markerSlot, VcpuMemory.markerSlot,
    exit.base]

/-- Behind a failed VMRESUME, the last call finds the stack aligned. -/
theorem isAligned16_last : isAligned16 (core.rsp - 8) = true := by
  have top := exit.toNat_rsp
  have whole := exit.aligned
  rw [isAligned16_iff]
  bv_omega

theorem isAligned16_frame : isAligned16 (core.rsp - 0x188) = true := by
  have top := exit.toNat_rsp
  have whole := exit.aligned
  rw [isAligned16_iff]
  bv_omega

end ExitsFrom

/-- The image of a host stack holds the pointer. -/
theorem VcpuMemory.load_stackImage (memory : VcpuMemory) :
    memory.stackImage.load memory.vcpuSlot = memory.vcpuPointer := by
  have behind : (memory.markerSlot - memory.vcpuSlot).toNat = 8 := by
    rw [markerSlot, vcpuSlot]
    bv_omega
  let pointed := Memory.zero.store memory.vcpuSlot memory.vcpuPointer
  have kept : AgreesOn memory.vcpuSlot 8 pointed memory.stackImage :=
    Memory.agreesOn_store (by omega) (by omega)
  exact kept.word.trans (Memory.load_store_self _ _ _)

/-- A core on the image of the host stack that was prepared, with any registers, is at a VM-exit. -/
theorem ExitsFrom.of_stackImage {vcpu : Vcpu} {machine : Machine} {session : Session Machine}
    (aligned : vcpu.memory.base.toNat % 4096 = 0)
    (fits : vcpu.memory.base.toNat + VcpuMemory.size.toNat ≤ 2 ^ 64)
    (running : session.vcpu
      = some (Machine.hardware.execute vcpu machine Vcpu.buildHostState).record)
    (regs : GuestRegisters) :
    let built := Machine.hardware.execute vcpu machine Vcpu.buildHostState
    ExitsFrom vcpu machine built.record session
      (.forTrial regs (built.state.field .hostRsp) built.record.memory.stackImage) := by
  intro built
  obtain ⟨s', ended, -⟩ := machine.vmcsHolder.execute_buildHostState vcpu rfl
  have record : built.record = vcpu.preparedFor Machine.interruptEntryPoint :=
    congrArg Execution.record ended
  exact
    { aligned, fits, running
      rsp := GuestRegisters.get_set_self regs .rsp (built.state.field .hostRsp)
      pointer := built.record.memory.load_stackImage
      address := by rw [record]; rfl
      base := by rw [record]; rfl }

/-! ## The code as a whole -/

open Instruction (steps steps_exitPrologue steps_exitEpilogue)

/-- What stands behind the call of the exit routine. -/
def exitEntryRest : Code Routine :=
  Code.plain exitEpilogue ++
    (.vmresume :: (Code.plain [.reserve 8] ++ [.call .resumeFailed]))

theorem exitEntry_eq :
    exitEntry = Code.plain exitPrologue ++ (.call .handleExit :: exitEntryRest) := by
  rw [exitEntry, List.append_assoc, List.append_assoc]
  rfl

/-- Behind the call, the registers of the guest are loaded and VMRESUME is executed.  Where that
fails, the code ends in the routine for it. -/
theorem exitEntryRest_resumes {core resumed : Core} (scratch : Core) (session : Session Machine)
    (loaded : steps core exitEpilogue = some resumed)
    (aligned : isAligned16 (resumed.rsp - 8) = true) :
    ∃ later, exitEntryRest.events (Session.routines scratch) core session
        = ⟨.vmresume, resumed, session⟩ :: later ∧
      later.filter CodeMoment.isResumption = [] ∧
      (exitEntryRest.run (Session.routines scratch) core session).1
        = if session.processor.vmresume.isNone then .guest resumed else .halted := by
  let resume := (Session.routines scratch).resume session
  let failed := resumed.setGpr .rsp (resumed.rsp - 8)
  have reserved : steps resumed [.reserve 8] = some failed := rfl
  have still : isAligned16 failed.rsp = true := aligned
  have halts : (Session.routines scratch).call .resumeFailed failed resume.2
      = (none, resume.2.resumeFailedRoutine) := rfl
  rw [exitEntryRest, Code.events_plain loaded, Code.run_plain loaded]
  cases fails : session.processor.vmresume with
  | none =>
      have enters : (Session.routines scratch).resume session = (true, resume.2) :=
        Prod.ext (congrArg Option.isNone fails) rfl
      rw [Code.events_vmresume_enters enters, Code.run_vmresume_enters enters]
      exact ⟨[], rfl, rfl, rfl⟩
  | some failure =>
      have goesOn : (Session.routines scratch).resume session = (false, resume.2) :=
        Prod.ext (congrArg Option.isNone fails) rfl
      rw [Code.events_vmresume_fails goesOn, Code.run_vmresume_fails goesOn,
        Code.events_plain reserved, Code.run_plain reserved, Code.events_call_halts still halts,
        Code.run_call_halts still halts]
      exact ⟨_, rfl, rfl, rfl⟩

/-- A core at the call of the exit routine, on the stack of the virtual processor `current`. -/
structure ReachesRoutine (current : Vcpu) (core called : Core) : Prop
    extends core.SavedForExit called where
  aligned : isAligned16 called.rsp = true
  last : isAligned16 (core.rsp - 8) = true
  owner : called.gpr .rdi = current.address
  present : called.gpr .rsi ≠ 0
  found : GuestRegisters.load called.memory (called.gpr .rsi) = core.guestRegisters
  marker : called.memory.load current.memory.markerSlot = core.memory.load current.memory.markerSlot

namespace ReachesRoutine

variable {current : Vcpu} {session session' : Session Machine} {regs : GuestRegisters}
  (reached : ReachesRoutine current core called) (running : session.vcpu = some current)
  (scratch : Core)
include reached running

/-- Behind a dispatch that succeeds, VMRESUME is executed. -/
theorem resumes {exitType : ExitType}
    (intact : core.memory.load current.memory.markerSlot = stackMarker)
    (dispatched : session.run Machine.hardware (current.handleExit.start core.guestRegisters)
      = ((.ok exitType, regs), session')) :
    let code := .call .handleExit :: exitEntryRest
    ∃ resumed later, Code.events (Session.routines scratch) code called session
        = ⟨.call .handleExit, called, session⟩ :: ⟨.vmresume, resumed, session'⟩ :: later ∧
      later.filter CodeMoment.isResumption = [] ∧
      (Code.run (Session.routines scratch) code called session).1
        = (if session'.processor.vmresume.isNone then .guest resumed else .halted) ∧
      resumed.rsp = core.rsp ∧ resumed.xmm = core.xmm ∧ ∀ r ≠ .rsp, resumed.gpr r = regs.get r := by
  intro code
  obtain ⟨resumed, loaded, stack, xmm, registers⟩ :=
    reached.loads_back reached.aligned regs scratch
  obtain ⟨later, events, others, ends⟩ :=
    exitEntryRest_resumes scratch session' loaded (stack ▸ reached.last)
  rw [← reached.found] at dispatched
  have returns : (Session.routines scratch).call .handleExit called session = (some _, session') :=
    Session.handleExitRoutine_of_ok scratch running reached.owner reached.present
      (reached.marker.trans intact) dispatched
  refine ⟨resumed, later, ?_, others, ?_, stack, xmm, registers⟩
  · rw [Code.events_call_returns reached.aligned returns, events]
  · rw [Code.run_call_returns reached.aligned returns, ends]

/-- On a damaged stack and behind an error, the code ends in the routine. -/
theorem halts
    (fails : core.memory.load current.memory.markerSlot ≠ stackMarker ∨
      ∃ error, (session.run Machine.hardware
        (current.handleExit.start core.guestRegisters)).1.1 = .error error) :
    let code := .call .handleExit :: exitEntryRest
    Code.events (Session.routines scratch) code called session
        = [⟨.call .handleExit, called, session⟩] ∧
      (Code.run (Session.routines scratch) code called session).1 = .halted := by
  intro code
  obtain ⟨session', halts⟩ : ∃ session',
      (Session.routines scratch).call .handleExit called session = (none, session') := by
    by_cases intact : core.memory.load current.memory.markerSlot = stackMarker
    · obtain ⟨error, failed⟩ := fails.resolve_left (fun damaged => damaged intact)
      rw [← reached.found] at failed
      exact ⟨_, Session.handleExitRoutine_of_error scratch running reached.owner reached.present
        (reached.marker.trans intact) (Prod.ext (Prod.ext failed rfl) rfl)⟩
    · exact ⟨_, Session.handleExitRoutine_of_damaged scratch running reached.owner reached.present
        (fun whole => intact (reached.marker.symm.trans whole))⟩
  rw [Code.events_call_halts reached.aligned halts, Code.run_call_halts reached.aligned halts]
  exact ⟨rfl, rfl⟩

end ReachesRoutine

section Exit

variable {vcpu current : Vcpu} {machine : Machine} {session : Session Machine}
  (exit : ExitsFrom vcpu machine current session core)
include exit

/-- **The code at the entry point saves everything and reaches the exit routine.** -/
theorem ExitsFrom.reaches_routine :
    ∃ called, steps core exitPrologue = some called ∧ ReachesRoutine current core called := by
  obtain ⟨called, executed, saved⟩ := steps_exitPrologue core exit.isAligned16_frame
  have top := exit.toNat_rsp
  refine ⟨called, executed, ?_⟩
  exact
    { saved with
      aligned := saved.rsp ▸ exit.isAligned16_frame
      last := exit.isAligned16_last
      owner := saved.vcpu.trans exit.load_pointer
      present := by
        rw [saved.registers]
        bv_omega
      found := saved.registers ▸ saved.guest
      marker := by
        rw [exit.markerSlot_eq]
        exact saved.above.load (by rw [toNat_add_sub_self]; decide) }

/-- **The VM-exit entry point is equivalent to a call of the dispatch.**  Every step is aligned, and
the exit routine is called with the virtual processor and the guest's registers, the slot of the
stack pointer zero.  Where the marker of the stack is intact and the dispatch succeeds, VMRESUME is
executed once, with the registers that the dispatch leaves, the XMM registers of the VM-exit and the
host stack pointer.  Otherwise it is never executed. -/
theorem exitEntry_refines_handleExit (scratch : Core) :
    let env := Session.routines scratch
    let ended := exitEntry.run env core session
    let dispatched := session.run Machine.hardware (current.handleExit.start core.guestRegisters)
    let intact := core.memory.load current.memory.markerSlot = stackMarker
    (∀ moment ∈ exitEntry.trace env core session, moment.isAligned = true) ∧
      (∃ called,
        (exitEntry.events env core session).head? = some ⟨.call .handleExit, called, session⟩ ∧
          called.gpr .rdi = vcpu.address ∧
          GuestRegisters.load called.memory (called.gpr .rsi) = core.guestRegisters) ∧
      (intact → ∀ exitType, dispatched.1.1 = .ok exitType →
        ∃ resumed, exitEntry.resumptions env core session = [⟨.vmresume, resumed, dispatched.2⟩] ∧
          (∀ r ≠ .rsp, resumed.gpr r = dispatched.1.2.get r) ∧
          resumed.xmm = core.xmm ∧ resumed.rsp = core.rsp ∧
          ended.1 = if dispatched.2.processor.vmresume.isNone then .guest resumed else .halted) ∧
      (¬intact ∨ (∃ error, dispatched.1.1 = .error error) →
        exitEntry.resumptions env core session = [] ∧ ended.1 = .halted ∧
          ended.2.resumed = session.resumed) := by
  intro env ended dispatched intact
  obtain ⟨called, executed, reached⟩ := exit.reaches_routine
  have run : ended = Code.run env (.call .handleExit :: exitEntryRest) called session := by
    rw [← Code.run_plain executed, ← exitEntry_eq]
  have events : exitEntry.events env core session
      = Code.events env (.call .handleExit :: exitEntryRest) called session := by
    rw [← Code.events_plain executed, ← exitEntry_eq]
  have passed : called.gpr .rdi = vcpu.address := reached.owner.trans exit.address
  by_cases fails : ¬intact ∨ ∃ error, dispatched.1.1 = .error error
  · obtain ⟨once, halted⟩ := reached.halts exit.running scratch fails
    have resumptions : exitEntry.resumptions env core session = [] := by
      rw [Code.resumptions, events, once]
      rfl
    have ending : ended.1 = .halted := by rw [run, halted]
    have record := Code.resumed_run exitEntry scratch core session
    rw [resumptions] at record
    refine ⟨Code.isAligned_of_trace ?_, ⟨called, ?_, passed, reached.found⟩, ?_,
      fun _ => ⟨resumptions, ending, record⟩⟩
    · rw [ending]
      simp
    · rw [events, once]
      rfl
    · intro whole exitType ok
      obtain ⟨error, failed⟩ := fails.resolve_left (fun damaged => damaged whole)
      cases ok.symm.trans failed
  · obtain ⟨whole, succeeds⟩ := not_or.1 fails
    obtain ⟨exitType, ok⟩ : ∃ exitType, dispatched.1.1 = .ok exitType := by
      cases result : dispatched.1.1 with
      | ok exitType => exact ⟨exitType, rfl⟩
      | error error => exact absurd ⟨error, result⟩ succeeds
    have dispatches : dispatched = ((.ok exitType, dispatched.1.2), dispatched.2) :=
      Prod.ext (Prod.ext ok rfl) rfl
    obtain ⟨resumed, later, resumes, others, ends, stack, xmm, registers⟩ :=
      reached.resumes exit.running scratch (Decidable.not_not.1 whole) dispatches
    have resumptions : exitEntry.resumptions env core session
        = [⟨.vmresume, resumed, dispatched.2⟩] := by
      rw [Code.resumptions, events, resumes]
      exact congrArg (_ :: ·) others
    have ending := (congrArg Prod.fst run).trans ends
    refine ⟨Code.isAligned_of_trace ?_, ⟨called, ?_, passed, reached.found⟩,
      fun _ _ _ => ⟨resumed, resumptions, registers, xmm, stack, ending⟩,
      fun failed => absurd failed fails⟩
    · rw [ending]
      split <;> simp
    · rw [events, resumes]
      rfl

end Exit

/-- A HLT of the guest on a fresh virtual processor, with a handler that leaves a mark in `r15`. -/
theorem exitEntry_refines_handleExit_hlt :
    let vcpu : Vcpu :=
      .fresh 0 0x2a5bc370c000 0x2a5bc3700000 (ExitHandlers.empty.insert .hlt SampleHandler.mark) {}
    let built := Machine.hardware.execute vcpu {} Vcpu.buildHostState
    let session : Session Machine :=
      { processor := built.state.setFields [(.exitReason, 12), (.exitInstructionLength, 1)]
        journal := .empty none
        vcpu := some built.record }
    let core : Core :=
      .forTrial ⟨fun r => r.number.setWidth 64⟩ (built.state.field .hostRsp)
        built.record.memory.stackImage
    let dispatched := session.run Machine.hardware
      (built.record.handleExit.start core.guestRegisters)
    ExitsFrom vcpu {} built.record session core ∧
      ∃ resumed, exitEntry.resumptions (Session.routines trialScratch) core session
          = [⟨.vmresume, resumed, dispatched.2⟩] ∧
        resumed.gpr .r14 = 14 ∧ resumed.gpr .r15 = SampleHandler.markValue ∧
        resumed.xmm = trialXmm ∧ resumed.rsp = 0x2a5bc3705fe8 := by
  intro vcpu built session core dispatched
  have exit : ExitsFrom vcpu {} built.record session core :=
    .of_stackImage (by decide) (by decide) rfl _
  have intact : core.memory.load built.record.memory.markerSlot = stackMarker :=
    Memory.load_store_self _ _ _
  have marked : dispatched.1.1 = .ok .incrementRip ∧ dispatched.1.2.get .r14 = 14 ∧
      dispatched.1.2.get .r15 = SampleHandler.markValue := by
    dsimp only [dispatched, session, built, vcpu, core]
    exact ⟨rfl, rfl, rfl⟩
  obtain ⟨resumed, once, registers, xmm, stack, -⟩ :=
    (exitEntry_refines_handleExit exit trialScratch).2.2.1 intact .incrementRip marked.1
  have top : vcpu.memory.base + 0x5fe8 = 0x2a5bc3705fe8 := by decide
  exact ⟨exit, resumed, once, (registers .r14 (by decide)).trans marked.2.1,
    (registers .r15 (by decide)).trans marked.2.2, xmm, stack.trans (exit.rsp_eq.trans top)⟩

end VtxMonitor
