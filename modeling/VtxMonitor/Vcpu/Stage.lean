/-!
# Vcpu/Stage — how far the bring-up of a processor got

Each stage implies all earlier ones; teardown undoes exactly the steps that the stage implies.
-/

namespace VtxMonitor

/-- The stages of bring-up. -/
inductive Stage where
  | off
  /-- CR0 and CR4 are adjusted for VMX operation. -/
  | vmxEnabled
  /-- VMXON succeeded. -/
  | vmxOn
  /-- The VMCS is current. -/
  | vmcsLoaded
  /-- The processor runs the guest. -/
  | launched
deriving DecidableEq

namespace Stage

/-- The position of a stage in the order of bring-up. -/
def rank : Stage → Nat
  | .off => 0
  | .vmxEnabled => 1
  | .vmxOn => 2
  | .vmcsLoaded => 3
  | .launched => 4

/-- Whether everything that `step` stands for has been done at a stage. -/
def reached (stage step : Stage) : Bool := step.rank ≤ stage.rank

/-- The name of a stage. -/
def label : Stage → String
  | .off => "Off"
  | .vmxEnabled => "VmxEnabled"
  | .vmxOn => "VmxOn"
  | .vmcsLoaded => "VmcsLoaded"
  | .launched => "Launched"

end Stage

end VtxMonitor
