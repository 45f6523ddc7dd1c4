import VtxMonitor.Exit.Emulation

/-!
# Exit/Scenario — VM-exits made up for a trial, and handlers to try them with

An `ExitScenario` says what a made-up VM-exit leaves in the VMCS. The sample handlers need nothing
from the processor, so that the registry and the dispatch can be tried on their own.
-/

namespace VtxMonitor

/-- What a made-up VM-exit leaves in the VMCS; what is absent stays as it is. -/
structure ExitScenario where
  reason : Option Word := none
  rip : Option Word := none
  instructionLength : Option Word := none
  qualification : Option Word := none
  interruption : Option Word := none
  errorCode : Option Word := none

namespace ExitScenario

/-- The fields that explain an exit beyond its reason, with their values. -/
def explanation (scenario : ExitScenario) : List (Vmcs.Field × Word) :=
  [(Vmcs.Field.exitQualification, scenario.qualification),
    (Vmcs.Field.exitInterruption, scenario.interruption),
    (Vmcs.Field.exitErrorCode, scenario.errorCode)].filterMap fun entry =>
      entry.2.map (entry.1, ·)

/-- Every field that a scenario sets, with its value. -/
def fields (scenario : ExitScenario) : List (Vmcs.Field × Word) :=
  ([(Vmcs.Field.exitReason, scenario.reason), (Vmcs.Field.guestRip, scenario.rip),
    (Vmcs.Field.exitInstructionLength, scenario.instructionLength)].filterMap fun entry =>
      entry.2.map (entry.1, ·)) ++ scenario.explanation

end ExitScenario

namespace SampleHandler

/-- Goes on behind the instruction. -/
def skip : ExitHandler := return .incrementRip

/-- Goes on at the same instruction. -/
def stay : ExitHandler := return .resume

/-- The value that `mark` leaves behind. -/
def markValue : Word := 0x6d61726b

/-- Leaves a value in `r15` and goes on behind the instruction. -/
def mark : ExitHandler := do
  modify fun regs => regs.set .r15 markValue
  return .incrementRip

/-- Fails. -/
def fail : ExitHandler := throw .vmxNotSupported

end SampleHandler

/-- The handlers that a trial can name. -/
def ExitHandler.named : List (String × ExitHandler) :=
  [("cpuid", Emulation.cpuid), ("mov_cr", Emulation.movCr), ("rdmsr", Emulation.rdmsr),
    ("wrmsr", Emulation.wrmsr), ("exception", Emulation.exceptionOrNmi),
    ("nmi_window", Emulation.nmiWindow), ("skip", SampleHandler.skip),
    ("stay", SampleHandler.stay), ("mark", SampleHandler.mark), ("fail", SampleHandler.fail)]

/-- The handler with a name; without one, the handler that skips the instruction. -/
def ExitHandler.ofName (name : String) : ExitHandler :=
  (ExitHandler.named.lookup name).getD SampleHandler.skip

end VtxMonitor
