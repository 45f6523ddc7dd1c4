import VtxMonitor.Exit.Scenario
import VtxMonitor.Simulator.Processor

/-!
# Simulator/Scenario — a made-up VM-exit on the simulated processor

A scenario with a reason goes through `SimulatedProcessor.simulateExit`; what explains the exit is
stored on top, also when the reason of an earlier exit is kept.
-/

namespace VtxMonitor.SimulatedProcessor

/-- Stores fields in order. -/
def setFields (cpu : SimulatedProcessor) (values : List (Vmcs.Field × Word)) :
    SimulatedProcessor :=
  values.foldl (fun cpu entry => cpu.setField entry.1 entry.2) cpu

/-- Puts a processor into the state behind a made-up VM-exit. -/
def stageExit (cpu : SimulatedProcessor) (scenario : ExitScenario) : SimulatedProcessor :=
  let cpu := match scenario.reason with
    | none => cpu
    | some reason =>
        cpu.simulateExit (reason.setWidth 32) (scenario.rip.getD 0)
          (scenario.instructionLength.getD 0)
  cpu.setFields scenario.explanation

end VtxMonitor.SimulatedProcessor
