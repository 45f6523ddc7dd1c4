import VtxMonitor.Proofs.Exit.ControlAccess
import VtxMonitor.Proofs.Exit.Incident

/-!
# Proofs/Exit/Skipping — which instructions can be skipped

A handler that asks for the instruction to be skipped has done its work when the addition of RIP and
the length is tried.  **If the sum does not fit into 64 bits, the dispatch fails, and what the
handler did stays**; otherwise the guest goes on behind the instruction
(`dispatch_skips_iff_fits`).  Every handler of an instruction in the default registry asks for the
skipping, and none touches RIP or the length, so that the guest alone chooses which of the two
happens (`defaults_asks`).
-/

namespace VtxMonitor

open SimulatedProcessor (hardware)

namespace ExitHandlers

variable {regs : GuestRegisters} {cpu : SimulatedProcessor} {handler : ExitHandler}

/-! ## Addresses beyond the end -/

/-- If the sum does not fit, nothing is written. -/
theorem run_advanceRip_of_not_fits (current : cpu.currentVmcs.isSome) (beyond : ¬cpu.NextRipFits) :
    hardware.run advanceRip.run cpu = (.error .ripOverflow, cpu) := by
  have overflow : (cpu.word .guestRip).uaddOverflow (cpu.word .exitInstructionLength) = true := by
    rw [BitVec.uaddOverflow, decide_eq_true_eq]
    exact Nat.not_lt.1 beyond
  rw [advanceRip, Hardware.run_procedure_ok hardware (SimulatedProcessor.run_read current _),
    Hardware.run_procedure_ok hardware (SimulatedProcessor.run_read current _), if_pos overflow]
  rfl

/-- If the handler asks for an instruction to be skipped that ends beyond the last address, the exit
fails with what the handler did. -/
theorem execute_serve_of_not_fits {record : GuestRegisters} {state : SimulatedProcessor}
    (handled : hardware.execute regs cpu handler = ⟨.ok .incrementRip, record, state⟩)
    (current : state.currentVmcs.isSome) (beyond : ¬state.NextRipFits) :
    hardware.execute regs cpu (serve handler) = ⟨.error .ripOverflow, record, state⟩ := by
  rw [serve, Hardware.execute_bind, handled, Execution.andThen_ok, if_pos rfl,
    Hardware.execute_bind, Hardware.execute_procedure, run_advanceRip_of_not_fits current beyond]
  rfl

/-! ## The handlers of instructions -/

/-- The default handler of an instruction asks for the instruction to be skipped. -/
theorem execute_instruction_outcome (current : cpu.currentVmcs.isSome) {reason : BasicExitReason}
    (instruction : reason ∈ BasicExitReason.instructions)
    (registered : defaults.get? reason = some handler) (regs : GuestRegisters) :
    (hardware.execute regs cpu handler).outcome = .ok .incrementRip := by
  simp only [BasicExitReason.instructions, List.mem_cons, List.not_mem_nil, or_false] at instruction
  rcases instruction with rfl | rfl | rfl | rfl
  · obtain rfl : Emulation.cpuid = handler := Option.some.inj registered
    rfl
  · obtain rfl : Emulation.rdmsr = handler := Option.some.inj registered
    rfl
  · obtain rfl : Emulation.wrmsr = handler := Option.some.inj registered
    rfl
  · obtain rfl : Emulation.movCr = handler := Option.some.inj registered
    have emulates : Emulation.Emulates cpu.vmcsFrame (cpu.vmcsFrame.rest cpu) (regs, cpu.word)
        Emulation.movCr .incrementRip _ := Emulation.movCr_emulates_effect (regs, cpu.word)
    exact (emulates.execute (cpu.vmcsFrame.shows_self ⟨current, rfl⟩)).1

/-- **The default handlers of instructions ask for the skipping** and leave the current VMCS, RIP
and the length of the instruction as they are. -/
theorem defaults_asks (current : cpu.currentVmcs.isSome) {reason : BasicExitReason}
    (instruction : reason ∈ BasicExitReason.instructions)
    (registered : defaults.get? reason = some handler) (regs : GuestRegisters) :
    let handled := hardware.execute regs cpu handler
    handled.outcome = .ok .incrementRip ∧ handled.state.currentVmcs = cpu.currentVmcs ∧
      handled.state.word .guestRip = cpu.word .guestRip ∧
      handled.state.word .exitInstructionLength = cpu.word .exitInstructionLength := by
  obtain ⟨found, registered', tame⟩ := defaults_instruction instruction regs
  obtain rfl : found = handler := Option.some.inj (registered'.symm.trans registered)
  have confined : Confined (.emulation (fun _ => True) .kept) cpu
      (hardware.execute regs cpu found).state := tame.confined cpu
  have rip : Vmcs.Field.guestRip ∉ emulatedFields := by decide
  have length : Vmcs.Field.exitInstructionLength ∉ emulatedFields := by decide
  exact ⟨execute_instruction_outcome current instruction registered regs, confined.currentVmcs,
    SimulatedProcessor.word_congr (confined.fields _ rip (by decide)),
    SimulatedProcessor.word_congr (confined.fields _ length (by decide))⟩

/-! ## The result -/

/-- **An instruction is skipped exactly if the address behind it fits into 64 bits.**  Where a
handler asks for the skipping, the dispatch ends as the handler did with RIP moved by the length,
or, if the sum does not fit, with an error, the handler's effects and RIP as the handler left it.
CPUID, RDMSR, WRMSR and control-register accesses always ask for it in the default registry, with
RIP and the length as the exit left them. -/
theorem dispatch_skips_iff_fits (handlers : ExitHandlers) (regs : GuestRegisters)
    (current : cpu.currentVmcs.isSome) (entered : cpu.exitReason.entryFailure = false)
    (registered : handlers.get? cpu.exitReason.basic = some handler) :
    let handled := hardware.execute regs cpu handler
    let ended := hardware.execute regs cpu handlers.dispatch
    (handlers = defaults → cpu.exitReason.basic ∈ BasicExitReason.instructions →
      handled.outcome = .ok .incrementRip ∧ handled.state.currentVmcs = cpu.currentVmcs ∧
        handled.state.word .guestRip = cpu.word .guestRip ∧
        handled.state.word .exitInstructionLength = cpu.word .exitInstructionLength) ∧
    (handled.outcome = .ok .incrementRip → handled.state.currentVmcs.isSome →
      (handled.state.NextRipFits → ended = { handled with
        state := handled.state.setField .guestRip handled.state.nextRip }) ∧
      (¬handled.state.NextRipFits → ended = { handled with outcome := .error .ripOverflow })) := by
  intro handled ended
  have served : ended = hardware.execute regs cpu (serve handler) :=
    congrArg Prod.snd (observe_dispatch_of_get regs current entered registered)
  refine ⟨?_, fun asks current' => ?_⟩
  · rintro rfl instruction
    exact defaults_asks current instruction registered regs
  · have split : hardware.execute regs cpu handler
        = ⟨.ok .incrementRip, handled.record, handled.state⟩ := Execution.ext asks rfl rfl
    rw [served]
    refine ⟨fun fits => ?_, fun beyond => execute_serve_of_not_fits split current' beyond⟩
    rw [execute_serve_of_incrementRip split current' fits, ← asks]

/-- CPUID in the middle of the address space is skipped. -/
theorem dispatch_skips_iff_fits_cpuid :
    let cpu := SimulatedProcessor.reset.enterVmxWithCurrentVmcs.simulateExit 10 0x1000 2
    let ended := hardware.execute .zero cpu defaults.dispatch
    (cpu.currentVmcs.isSome ∧ cpu.exitReason.entryFailure = false) ∧
      ended.outcome = .ok .incrementRip ∧ ended.state.word .guestRip = 0x1002 := by
  intro cpu ended
  have current : cpu.currentVmcs.isSome := rfl
  have entered : cpu.exitReason.entryFailure = false := by decide
  have cpuid : cpu.exitReason.basic = .cpuid := by decide
  have registered : defaults.get? cpu.exitReason.basic = some Emulation.cpuid := by
    rw [cpuid]
    rfl
  obtain ⟨asks, skips⟩ := dispatch_skips_iff_fits defaults .zero current entered registered
  obtain ⟨outcome, current', rip, length⟩ := asks rfl (by rw [cpuid]; decide)
  have fits : (hardware.execute .zero cpu Emulation.cpuid).state.NextRipFits := by
    rw [SimulatedProcessor.NextRipFits, rip, length]
    decide
  have skipped := (skips outcome (current' ▸ current)).1 fits
  refine ⟨⟨current, entered⟩, ?_, ?_⟩
  · rw [show ended = _ from skipped]
    exact outcome
  · rw [show ended = _ from skipped, SimulatedProcessor.word_setField_self,
      SimulatedProcessor.nextRip, rip, length]
    decide

/-- CPUID in the last bytes of the address space: its registers are replaced, and then the dispatch
fails. -/
theorem dispatch_fails_at_end :
    let cpu := SimulatedProcessor.reset.enterVmxWithCurrentVmcs.simulateExit 10 0xffffffffffffffff 2
    let ended := hardware.execute (GuestRegisters.zero.set .rax 1) cpu defaults.dispatch
    cpu.currentVmcs.isSome ∧ ended.outcome = .error .ripOverflow ∧
      ended.record.get .rbx = 0x100800 ∧ ended.state.word .guestRip = 0xffffffffffffffff :=
  ⟨rfl, rfl, rfl, rfl⟩

end ExitHandlers

end VtxMonitor
