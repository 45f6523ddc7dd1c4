import VtxMonitor.Session
import VtxMonitor.Simulator.Scenario
import VtxMonitor.Simulator.Testbed

/-!
# Simulator/Bench — sessions on a simulated processor with injected faults

A made-up VM-exit is staged on the processor behind the testbed and then emulated like a real one.
-/

namespace VtxMonitor.Session

/-- Stages a made-up VM-exit, replaces some of the guest's registers and emulates something. -/
def emulateExit {α : Type} (scenario : ExitScenario) (values : List (Register × Word))
    (emulation : Emulation α) (session : Session Testbed) : Except Error α × Session Testbed :=
  let session := { session with
    processor := session.processor.onCpu fun cpu => cpu.stageExit scenario }
  (session.setRegisters values).emulate Testbed.hardware emulation

/-- The events that the processor recorded behind the first `seen`. -/
def eventsSince (seen : Nat) (session : Session Testbed) : List Event :=
  session.processor.cpu.events.drop seen

end VtxMonitor.Session
