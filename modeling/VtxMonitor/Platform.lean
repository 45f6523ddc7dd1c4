import VtxMonitor.Vcpu.Basic

/-!
# Platform — running programs on one of several processors

A `Platform` is what the monitor is given to work with: the states of the processors, one journal
for all of them, and an arena for the memory of virtual processors. `runOn` runs a program on one
processor and leaves the others alone; it has no result for a processor that does not exist.
-/

namespace VtxMonitor

/-- A host platform with processors of state `σ`. -/
structure Platform (σ : Type) where
  processors : List σ
  journal : Journal
  arena : Arena := {}

namespace Platform

variable {σ α : Type}

/-- How many processors there are. -/
def count (platform : Platform σ) : BitVec 32 := BitVec.ofNat 32 platform.processors.length

/-- Reports something that concerns no single processor. -/
def report (platform : Platform σ) (diagnostic : Diagnostic) : Platform σ :=
  { platform with journal := platform.journal.add diagnostic }

/-- Reports several things in order. -/
def reportAll (platform : Platform σ) (diagnostics : List Diagnostic) : Platform σ :=
  { platform with journal := platform.journal.addAll diagnostics }

/-- Changes the state of one processor from outside. -/
def modifyProcessor (platform : Platform σ) (index : Nat) (f : σ → σ) : Platform σ :=
  { platform with processors := platform.processors.modify index f }

/-- Runs a program on one processor, if there is one with that index. -/
def runOn (hw : Hardware σ) (index : Nat) (program : Program α) (platform : Platform σ) :
    Option (α × Platform σ) :=
  platform.processors[index]?.map fun s =>
    let (value, s, journal) := hw.runLogged program s platform.journal
    (value, { platform with processors := platform.processors.set index s, journal })

/-- Creates a virtual processor. -/
def newVcpu (index : BitVec 32) (handlers : ExitHandlers) (intercepts : MsrIntercepts)
    (platform : Platform σ) : Vcpu × Platform σ :=
  let platform := platform.report (.creatingVcpu index)
  let (vcpu, arena) := Vcpu.allocate index handlers intercepts platform.arena
  (vcpu, { platform with arena })

end Platform

end VtxMonitor
