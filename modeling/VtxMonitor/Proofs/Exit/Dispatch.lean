import Mathlib.Algebra.Group.Nat.Defs
import VtxMonitor.Exit.Scenario
import VtxMonitor.Proofs.Processor.Steps
import VtxMonitor.Proofs.Simulator.VmcsAccess

/-!
# Proofs/Exit/Dispatch — which handler an exit reaches, and what is done besides it

The low 16 bits of the exit reason and its bit 31 decide alone what a dispatch does.  Failed
VM-entries and exits without a handler change nothing; otherwise the requests of a dispatch are
those of the registered handler, **once and from the untouched processor**, between the reading of
the reason and the skipping of the instruction (`dispatch_routes`).
-/

namespace VtxMonitor

open SimulatedProcessor (hardware)

namespace SimulatedProcessor

/-- The reason of the last exit. -/
def exitReason (cpu : SimulatedProcessor) : ExitReason := ⟨(cpu.word .exitReason).setWidth 32⟩

/-- The guest instruction pointer behind the instruction that caused the last exit. -/
def nextRip (cpu : SimulatedProcessor) : Word :=
  cpu.word .guestRip + cpu.word .exitInstructionLength

/-- Whether the next instruction pointer fits into 64 bits. -/
def NextRipFits (cpu : SimulatedProcessor) : Prop :=
  (cpu.word .guestRip).toNat + (cpu.word .exitInstructionLength).toNat < 2 ^ 64

end SimulatedProcessor

section Accesses

variable {ρ : Type} (record : ρ) {cpu : SimulatedProcessor}

theorem observe_read (current : cpu.currentVmcs.isSome) (field : Vmcs.Field) :
    hardware.observe record cpu (liftM (Vmcs.read field) : Fallible ρ Word)
      = ([(.vmread field, cpu)], ⟨.ok (cpu.word field), record, cpu⟩) := by
  rw [Hardware.observe_procedure, SimulatedProcessor.run_read current]
  rfl

theorem observe_read_of_none (none : cpu.currentVmcs = none) (field : Vmcs.Field) :
    hardware.observe record cpu (liftM (Vmcs.read field) : Fallible ρ Word)
      = ([(.vmread field, cpu)], ⟨.error (.vmcsAccess field .invalid), record, cpu⟩) := by
  rw [Hardware.observe_procedure, SimulatedProcessor.run_read_of_none none]
  rfl

theorem observe_write (current : cpu.currentVmcs.isSome) (field : Vmcs.Field) (value : Word) :
    hardware.observe record cpu (liftM (Vmcs.write field value) : Fallible ρ Unit)
      = ([(.vmwrite field (.word value), cpu)], ⟨.ok (), record, cpu.setField field value⟩) := by
  rw [Hardware.observe_procedure, SimulatedProcessor.run_write current]
  rfl

/-- Reading a field for a report, where a failure would be read as zero. -/
theorem observe_read_orElse (current : cpu.currentVmcs.isSome) (field : Vmcs.Field) :
    hardware.observe record cpu (liftM (Procedure.orElse 0 (Vmcs.read field)) : Fallible ρ Word)
      = ([(.vmread field, cpu)], ⟨.ok (cpu.word field), record, cpu⟩) := by
  have steps : hardware.steps (Procedure.orElse 0 (Vmcs.read field)) cpu
      = [(.vmread field, cpu)] := by
    rw [Procedure.orElse, Hardware.steps_bind, SimulatedProcessor.run_read current]
    rfl
  have ended : hardware.run (Procedure.orElse 0 (Vmcs.read field)) cpu
      = (cpu.word field, cpu) := by
    rw [Procedure.orElse, Hardware.run_bind, SimulatedProcessor.run_read current]
    rfl
  rw [Hardware.observe_program, steps, ended]

end Accesses

namespace ExitHandlers

variable (handlers : ExitHandlers) (regs : GuestRegisters) {cpu : SimulatedProcessor}

/-! ## The parts of a dispatch -/

theorem observe_readReason (current : cpu.currentVmcs.isSome) :
    hardware.observe regs cpu (liftM ExitReason.read : Emulation ExitReason)
      = ([(.vmread .exitReason, cpu)], ⟨.ok cpu.exitReason, regs, cpu⟩) := by
  rw [ExitReason.read, Procedure.liftM_bind,
    hardware.observe_bind_ok (observe_read regs current _)]
  rfl

theorem observe_readReason_of_none (none : cpu.currentVmcs = none) :
    hardware.observe regs cpu (liftM ExitReason.read : Emulation ExitReason)
      = ([(.vmread .exitReason, cpu)],
        ⟨.error (.vmcsAccess .exitReason .invalid), regs, cpu⟩) := by
  rw [ExitReason.read, Procedure.liftM_bind,
    hardware.observe_bind_error (observe_read_of_none regs none _)]

/-- The requests that skip an instruction. -/
def skipping (cpu : SimulatedProcessor) : List (Operation × SimulatedProcessor) :=
  [(.vmread .guestRip, cpu), (.vmread .exitInstructionLength, cpu),
    (.vmwrite .guestRip (.word cpu.nextRip), cpu)]

theorem observe_advanceRip (current : cpu.currentVmcs.isSome) (fits : cpu.NextRipFits) :
    hardware.observe regs cpu (liftM advanceRip : Emulation Unit)
      = (skipping cpu, ⟨.ok (), regs, cpu.setField .guestRip cpu.nextRip⟩) := by
  have noOverflow : ¬(cpu.word .guestRip).uaddOverflow (cpu.word .exitInstructionLength) := by
    rw [BitVec.uaddOverflow, decide_eq_true_eq]
    exact Nat.not_le.2 fits
  rw [advanceRip, Procedure.liftM_bind,
    hardware.observe_bind_ok (observe_read regs current _), Procedure.liftM_bind,
    hardware.observe_bind_ok (observe_read regs current _), if_neg noOverflow,
    observe_write regs current]
  rfl

/-! ## Exits that reach no handler -/

/-- Without a current VMCS there is no reason to be found. -/
theorem observe_dispatch_of_none (none : cpu.currentVmcs = none) :
    hardware.observe regs cpu handlers.dispatch
      = ([(.vmread .exitReason, cpu)],
        ⟨.error (.vmcsAccess .exitReason .invalid), regs, cpu⟩) := by
  rw [dispatch, hardware.observe_bind_error (observe_readReason_of_none regs none)]

theorem observe_dispatch_of_failed (current : cpu.currentVmcs.isSome)
    (failed : cpu.exitReason.entryFailure = true) :
    hardware.observe regs cpu handlers.dispatch
      = ([(.vmread .exitReason, cpu), (.report (.entryFailed cpu.exitReason), cpu)],
        ⟨.error (.vmEntryFailure cpu.exitReason.bits), regs, cpu⟩) := by
  rw [dispatch, hardware.observe_bind_ok (observe_readReason regs current), if_pos failed]
  rfl

theorem observe_dispatch_of_unhandled (current : cpu.currentVmcs.isSome)
    (entered : cpu.exitReason.entryFailure = false)
    (unhandled : handlers.get? cpu.exitReason.basic = none) :
    hardware.observe regs cpu handlers.dispatch
      = ([(.vmread .exitReason, cpu), (.vmread .guestRip, cpu), (.vmread .exitQualification, cpu),
          (.report (.unhandledExit cpu.exitReason.basic (cpu.word .guestRip)
            (cpu.word .exitQualification) regs), cpu)],
        ⟨.error (.unhandledVmExit cpu.exitReason.basic.code (cpu.word .guestRip)), regs, cpu⟩) := by
  rw [dispatch, hardware.observe_bind_ok (observe_readReason regs current),
    if_neg (by rw [entered]; decide)]
  dsimp only
  rw [unhandled]
  dsimp only
  rw [hardware.observe_bind_ok (observe_read_orElse regs current _),
    hardware.observe_bind_ok (observe_read_orElse regs current _),
    hardware.observe_bind_ok (Hardware.observe_get ..)]
  rfl

/-! ## Exits that reach a handler -/

/-- The requests that lead to the handler of an exit. -/
def routing (cpu : SimulatedProcessor) : List (Operation × SimulatedProcessor) :=
  [(.vmread .exitReason, cpu), (.report (.handlingExit cpu.exitReason.basic), cpu)]

/-- The requests behind a handler that ended: those that skip the instruction, if any. -/
def leaving : Execution GuestRegisters SimulatedProcessor ExitType →
    List (Operation × SimulatedProcessor)
  | ⟨.ok .incrementRip, _, cpu⟩ => hardware.steps advanceRip.run cpu
  | _ => []

variable {handlers} in
/-- A dispatch only reads the reason before it serves the registered handler. -/
theorem observe_dispatch_of_get (current : cpu.currentVmcs.isSome)
    (entered : cpu.exitReason.entryFailure = false) {handler : ExitHandler}
    (registered : handlers.get? cpu.exitReason.basic = some handler) :
    hardware.observe regs cpu handlers.dispatch
      = (routing cpu ++ hardware.stepsOf regs cpu (serve handler),
        hardware.execute regs cpu (serve handler)) := by
  rw [dispatch, hardware.observe_bind_ok (observe_readReason regs current),
    if_neg (by rw [entered]; decide)]
  dsimp only
  rw [registered]
  dsimp only
  rw [hardware.observe_bind_ok (Hardware.observe_report ..)]
  rfl

variable {regs} {handler : ExitHandler}

theorem stepsOf_serve : hardware.stepsOf regs cpu (serve handler)
    = hardware.stepsOf regs cpu handler ++ leaving (hardware.execute regs cpu handler) := by
  rw [serve, Hardware.stepsOf_bind]
  obtain ⟨error | exitType, record, state⟩ := hardware.execute regs cpu handler
  · rfl
  · cases exitType with
    | resume => rfl
    | incrementRip =>
        dsimp only
        rw [if_pos rfl, Hardware.stepsOf_bind, Hardware.stepsOf_procedure, leaving]
        split <;> exact congrArg _ (List.append_nil _)

/-- Unless the handler asks for the skipping, an exit ends as the handler does. -/
theorem execute_serve_of_ne
    (stays : (hardware.execute regs cpu handler).outcome ≠ .ok .incrementRip) :
    hardware.execute regs cpu (serve handler) = hardware.execute regs cpu handler := by
  rw [serve, Hardware.execute_bind]
  rcases handled : hardware.execute regs cpu handler with ⟨error | exitType, record, state⟩
  · rfl
  · cases exitType with
    | resume => rfl
    | incrementRip => exact absurd (congrArg Execution.outcome handled) stays

/-- If the handler asks for it, the instruction is skipped from the state that the handler left. -/
theorem execute_serve_of_incrementRip {record : GuestRegisters} {state : SimulatedProcessor}
    (handled : hardware.execute regs cpu handler = ⟨.ok .incrementRip, record, state⟩)
    (current : state.currentVmcs.isSome) (fits : state.NextRipFits) :
    hardware.execute regs cpu (serve handler)
      = ⟨.ok .incrementRip, record, state.setField .guestRip state.nextRip⟩ := by
  have advanced := congrArg Prod.snd (observe_advanceRip record current fits)
  rw [serve, Hardware.execute_bind, handled, Execution.andThen_ok, if_pos rfl,
    Hardware.execute_bind, show hardware.execute record state (liftM advanceRip) = _ from advanced]
  rfl

/-- A dispatch either leaves registers and processor alone or serves the registered handler. -/
theorem dispatch_cases (handlers : ExitHandlers) (regs : GuestRegisters)
    (cpu : SimulatedProcessor) :
    ((hardware.execute regs cpu handlers.dispatch).record = regs ∧
      (hardware.execute regs cpu handlers.dispatch).state = cpu) ∨
    ∃ handler, handlers.get? cpu.exitReason.basic = some handler ∧
      hardware.execute regs cpu handlers.dispatch = hardware.execute regs cpu (serve handler) := by
  cases current : cpu.currentVmcs with
  | none =>
      have ended := congrArg Prod.snd (observe_dispatch_of_none handlers regs current)
      exact .inl ⟨congrArg Execution.record ended, congrArg Execution.state ended⟩
  | some vmcs =>
      have current : cpu.currentVmcs.isSome := by rw [current]; rfl
      cases failed : cpu.exitReason.entryFailure with
      | true =>
          have ended := congrArg Prod.snd (observe_dispatch_of_failed handlers regs current failed)
          exact .inl ⟨congrArg Execution.record ended, congrArg Execution.state ended⟩
      | false =>
          cases registered : handlers.get? cpu.exitReason.basic with
          | none =>
              have ended := congrArg Prod.snd
                (observe_dispatch_of_unhandled handlers regs current failed registered)
              exact .inl ⟨congrArg Execution.record ended, congrArg Execution.state ended⟩
          | some handler =>
              have ended := congrArg Prod.snd
                (observe_dispatch_of_get regs current failed registered)
              exact .inr ⟨handler, rfl, ended⟩

/-! ## Routing -/

/-- **The dispatch of an exit.**  Without a current VMCS, for a failed VM-entry and for a reason
nobody registered for, it fails without any change and without a request of a handler.  Otherwise
the handler registered for the low 16 bits of the reason runs once, from the untouched processor,
and the only thing done behind it is the skipping of the instruction, if it asks for that. -/
theorem dispatch_routes (handlers : ExitHandlers) (regs : GuestRegisters)
    (cpu : SimulatedProcessor) :
    let word : BitVec 32 := (cpu.word .exitReason).setWidth 32
    let reason : BasicExitReason := ⟨word.extractLsb' 0 16⟩
    let requests := hardware.stepsOf regs cpu handlers.dispatch
    let ended := hardware.execute regs cpu handlers.dispatch
    (cpu.currentVmcs = none →
      requests = [(.vmread .exitReason, cpu)] ∧
      ended = ⟨.error (.vmcsAccess .exitReason .invalid), regs, cpu⟩) ∧
    (cpu.currentVmcs.isSome → word.getLsbD 31 = true →
      requests = [(.vmread .exitReason, cpu), (.report (.entryFailed ⟨word⟩), cpu)] ∧
      ended = ⟨.error (.vmEntryFailure word), regs, cpu⟩) ∧
    (cpu.currentVmcs.isSome → word.getLsbD 31 = false → handlers.get? reason = none →
      requests = [(.vmread .exitReason, cpu), (.vmread .guestRip, cpu),
        (.vmread .exitQualification, cpu), (.report (.unhandledExit reason (cpu.word .guestRip)
          (cpu.word .exitQualification) regs), cpu)] ∧
      ended = ⟨.error (.unhandledVmExit reason.code (cpu.word .guestRip)), regs, cpu⟩) ∧
    (cpu.currentVmcs.isSome → word.getLsbD 31 = false →
      ∀ handler, handlers.get? reason = some handler →
        let handled := hardware.execute regs cpu handler
        requests = routing cpu ++ (hardware.stepsOf regs cpu handler ++ leaving handled) ∧
        (handled.outcome ≠ .ok .incrementRip → ended = handled) ∧
        (handled.outcome = .ok .incrementRip → handled.state.currentVmcs.isSome →
          handled.state.NextRipFits →
          leaving handled = skipping handled.state ∧
          ended = { handled with
            state := handled.state.setField .guestRip handled.state.nextRip })) := by
  refine ⟨fun none => ?_, fun current failed => ?_, fun current entered unhandled => ?_,
    fun current entered handler registered => ?_⟩
  · exact Prod.ext_iff.1 (observe_dispatch_of_none handlers regs none)
  · exact Prod.ext_iff.1 (observe_dispatch_of_failed handlers regs current failed)
  · exact Prod.ext_iff.1 (observe_dispatch_of_unhandled handlers regs current entered unhandled)
  · obtain ⟨requests, ended⟩ :=
      Prod.ext_iff.1 (observe_dispatch_of_get regs current entered registered)
    dsimp only
    rw [show hardware.stepsOf regs cpu handlers.dispatch = _ from requests,
      show hardware.execute regs cpu handlers.dispatch = _ from ended, stepsOf_serve]
    refine ⟨rfl, execute_serve_of_ne, fun skips current' fits => ?_⟩
    rcases handled : hardware.execute regs cpu handler with ⟨outcome, record, state⟩
    rw [handled] at skips current' fits
    obtain rfl : outcome = .ok .incrementRip := skips
    have advanced := observe_advanceRip record current' fits
    rw [Hardware.observe_procedure] at advanced
    exact ⟨congrArg Prod.fst advanced, execute_serve_of_incrementRip handled current' fits⟩

/-- HLT, with all flags below bit 31 set in the reason, reaches a handler that was registered for it
and is skipped. -/
theorem dispatch_routes_mark :
    let cpu := SimulatedProcessor.reset.enterVmxWithCurrentVmcs.simulateExit 0x7fff000c 0x1000 1
    let handlers := ExitHandlers.defaults.insert .hlt SampleHandler.mark
    let ended := hardware.execute .zero cpu handlers.dispatch
    ended.outcome = .ok .incrementRip ∧ ended.record.get .r15 = SampleHandler.markValue ∧
      ended.state = cpu.setField .guestRip 0x1001 := by
  intro cpu handlers ended
  have reason : (⟨((cpu.word .exitReason).setWidth 32).extractLsb' 0 16⟩ : BasicExitReason)
      = .hlt := by decide
  obtain ⟨-, -, -, handled⟩ := dispatch_routes handlers .zero cpu
  rw [reason] at handled
  obtain ⟨-, -, skipped⟩ := handled rfl (by decide) SampleHandler.mark rfl
  obtain ⟨-, skipped⟩ := skipped rfl rfl (by unfold SimulatedProcessor.NextRipFits; decide)
  rw [show ended = _ from skipped]
  exact ⟨rfl, rfl, rfl⟩

end ExitHandlers

end VtxMonitor
