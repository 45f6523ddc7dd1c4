import VtxMonitor.Monitor
import VtxMonitor.Simulator.Scenario

/-!
# Simulator/Cluster — a platform of simulated processors with at most one monitor

A `Cluster` keeps the processors, the monitor that was built for them and the registers of the
guest on each processor. Building a monitor gives the previous one up; the virtual processors that
run a guest then stay in use, as the processors do.
-/

namespace VtxMonitor

/-- Simulated processors and the monitor on top of them. -/
structure Cluster where
  platform : Platform SimulatedProcessor
  monitor : Option Monitor := none
  /-- The registers of the guest on each processor. -/
  registers : Nat → GuestRegisters := fun _ => .zero

namespace Cluster

/-- A number of processors after reset. -/
def reset (count : Nat) (threshold : Threshold) : Cluster where
  platform := { processors := List.replicate count .reset, journal := .empty threshold }

/-- Gives the monitor up. -/
def dropMonitor (cluster : Cluster) : Cluster := { cluster with monitor := none }

/-- Builds a monitor in place of the current one and returns how many virtual processors it has. -/
def build (settings : List Setting) (cluster : Cluster) : Option Nat × Cluster :=
  let cluster := cluster.dropMonitor
  let (monitor, platform) := (Configuration.ofSettings settings).build
    SimulatedProcessor.hardware (cluster.platform.reportAll (Configuration.remarks settings))
  (monitor.map fun monitor => monitor.vcpus.length, { cluster with platform, monitor })

/-- Brings every processor under the monitor, if there is one. -/
def virtualize (cluster : Cluster) : Option (Bool × Cluster) :=
  cluster.monitor.map fun monitor =>
    let (success, monitor, platform) :=
      monitor.virtualize SimulatedProcessor.hardware cluster.platform
    (success, { cluster with platform, monitor := some monitor })

/-- Keeps the first processors only. -/
def truncate (count : Nat) (cluster : Cluster) : Cluster :=
  { cluster with
    platform := { cluster.platform with processors := cluster.platform.processors.take count } }

/-- The processor with an index. -/
def processor? (cluster : Cluster) (index : Nat) : Option SimulatedProcessor :=
  cluster.platform.processors[index]?

/-- The virtual processor of a processor that exists. -/
def vcpu? (cluster : Cluster) (index : Nat) : Option Vcpu := do
  let _ ← cluster.processor? index
  (← cluster.monitor).vcpus[index]?

/-- Changes the state of one processor from outside. -/
def modifyProcessor (index : Nat) (f : SimulatedProcessor → SimulatedProcessor)
    (cluster : Cluster) : Cluster :=
  { cluster with platform := cluster.platform.modifyProcessor index f }

/-- Runs a program on one processor, if it exists. -/
def runOn {α : Type} (index : Nat) (program : Program α) (cluster : Cluster) :
    Option (α × Cluster) :=
  (cluster.platform.runOn SimulatedProcessor.hardware index program).map fun (value, platform) =>
    (value, { cluster with platform })

/-- Replaces some registers of the guest on a processor. -/
def setRegisters (index : Nat) (values : List (Register × Word)) (cluster : Cluster) : Cluster :=
  { cluster with
    registers := update cluster.registers index ((cluster.registers index).setAll values) }

/-- Handles a made-up VM-exit on a processor that has a virtual processor. -/
def exit (index : Nat) (scenario : ExitScenario) (values : List (Register × Word))
    (cluster : Cluster) : Option (Except Error ExitType × Cluster) := do
  let vcpu ← cluster.vcpu? index
  let cluster := (cluster.modifyProcessor index fun cpu => cpu.stageExit scenario).setRegisters
    index values
  let ((outcome, registers), cluster) ←
    cluster.runOn index (vcpu.handleExit.start (cluster.registers index))
  return (outcome, { cluster with registers := update cluster.registers index registers })

/-- The lines that were collected, and the cluster with an empty journal. -/
def takeLines (cluster : Cluster) : Array String × Cluster :=
  (cluster.platform.journal.lines,
    { cluster with
      platform := { cluster.platform with
        journal := .empty cluster.platform.journal.threshold } })

end Cluster

end VtxMonitor
