import VtxMonitor.Proofs.Vcpu.Phases
import VtxMonitor.Proofs.Vmcs.Population

/-!
# Proofs/Vcpu/BringUp — the six ways in which bringing a simulated processor up ends

`BringUpEnds` lists the ends of a bring-up: under which conditions each is reached, with which
outcome, and in which states it leaves the virtual processor and the processor.  **Every bring-up
ends in one of these ways** (`bringUpEnds`); in particular VMCS misalignment, INVEPT, VMCLEAR,
VMPTRLD and the writes of VMCS fields never end one.  `VirtualizeEnds` adds the capability check in
front and the rollback behind.
-/

namespace VtxMonitor.Vcpu

open SimulatedProcessor (hardware)
open Script

variable (vcpu : Vcpu) (cpu : SimulatedProcessor) (featureControl : FeatureControlState)

/-! ## The virtual processor on the way -/

/-- The virtual processor when VMXON is tried. -/
def entering : Vcpu := (vcpu.withVmxEnabled cpu).vmxonStamped cpu

/-- The virtual processor when the VMCS is about to be loaded. -/
def loading : Vcpu := ((vcpu.entering cpu).atStage .vmxOn).vmcsStamped cpu

/-- The virtual processor while the VMCS is filled. -/
def filling : Vcpu := ((vcpu.loading cpu).atStage .vmcsLoaded).prepared

@[simp] theorem stage_entering : (vcpu.entering cpu).stage = .vmxEnabled := rfl

@[simp] theorem stage_loading : (vcpu.loading cpu).stage = .vmxOn := rfl

@[simp] theorem stage_filling : (vcpu.filling cpu).stage = .vmcsLoaded := rfl

@[simp] theorem savedCr0_entering : (vcpu.entering cpu).savedCr0 = cpu.cr0 := rfl

@[simp] theorem savedCr0_loading : (vcpu.loading cpu).savedCr0 = cpu.cr0 := rfl

@[simp] theorem savedCr0_filling : (vcpu.filling cpu).savedCr0 = cpu.cr0 := rfl

@[simp] theorem savedCr4_entering : (vcpu.entering cpu).savedCr4 = cpu.cr4 := rfl

@[simp] theorem savedCr4_loading : (vcpu.loading cpu).savedCr4 = cpu.cr4 := rfl

@[simp] theorem savedCr4_filling : (vcpu.filling cpu).savedCr4 = cpu.cr4 := rfl

theorem offset_withVmxEnabled :
    (cpu.withVmxEnabled featureControl).physicalOffset = cpu.physicalOffset := rfl

theorem offset_withVmxOn (vmxon : Word) :
    ((cpu.withVmxEnabled featureControl).withVmxOn vmxon).physicalOffset
      = cpu.physicalOffset := rfl

theorem memory_withVmxEnabled : (vcpu.withVmxEnabled cpu).memory = vcpu.memory := rfl

theorem admitsVmxon_withVmxEnabled :
    (cpu.withVmxEnabled featureControl).AdmitsVmxon
      ↔ cpu.vmxOperation = false ∧ cpu.adjustedCr4 &&& cr4Vmxe ≠ 0 := by
  rw [SimulatedProcessor.AdmitsVmxon, SimulatedProcessor.withVmxEnabled]

/-- The memory stays where it is. -/
theorem entering_vmcsAddress :
    (vcpu.entering cpu).memory.vmcsAddress = vcpu.memory.vmcsAddress := by
  rw [VcpuMemory.vmcsAddress, VcpuMemory.vmcsAddress]
  rfl

theorem loading_msrBitmapAddress :
    (vcpu.loading cpu).memory.msrBitmapAddress = vcpu.memory.msrBitmapAddress := by
  rw [VcpuMemory.msrBitmapAddress, VcpuMemory.msrBitmapAddress]
  rfl

theorem revisionId_withVmxEnabled :
    (cpu.withVmxEnabled featureControl).revisionId = cpu.revisionId := by
  have basic : Msr.vmxBasic ≠ Msr.featureControl := by decide
  simp only [SimulatedProcessor.revisionId, SimulatedProcessor.withVmxEnabled,
    SimulatedProcessor.lockedMsrs_of_ne cpu featureControl basic]

/-- Whenever VMXON is tried, its region carries the revision that the processor reported first. -/
theorem vmxonStamped_withVmxEnabled :
    (vcpu.withVmxEnabled cpu).vmxonStamped (cpu.withVmxEnabled featureControl)
      = vcpu.entering cpu := by
  rw [entering, vmxonStamped, vmxonStamped, revisionId_withVmxEnabled]

theorem vmcsStamped_withVmxOn (vmxon : Word) :
    ((vcpu.entering cpu).atStage .vmxOn).vmcsStamped
        ((cpu.withVmxEnabled featureControl).withVmxOn vmxon)
      = vcpu.loading cpu := by
  have revision : ((cpu.withVmxEnabled featureControl).withVmxOn vmxon).revisionId
      = cpu.revisionId := revisionId_withVmxEnabled cpu featureControl
  rw [loading, vmcsStamped, vmcsStamped, revision]

/-! ## The parts of the bring-up -/

theorem execute_report_bind (diagnostic : Diagnostic) (next : Unit → Fallible Vcpu Unit) :
    hardware.execute vcpu cpu (liftM (Program.report diagnostic) >>= next)
      = hardware.execute vcpu cpu (next ()) := rfl

/-- **Once the VMCS is loaded**, what is left fails for an unmapped MSR bitmap and for a launch that
is made to fail, and for nothing else. -/
theorem execute_fillAndLaunch (current : cpu.currentVmcs.isSome) :
    ∃ fields,
      (hardware.run (Vmcs.populate vcpu.prepared.memory).run cpu).2 = cpu.withFields fields ∧
      hardware.execute vcpu cpu fillAndLaunch
        = match cpu.physicalAddress vcpu.memory.msrBitmapAddress with
          | none =>
              ⟨.error (.unmappedAddress vcpu.memory.msrBitmapAddress), vcpu.prepared,
                cpu.withFields fields⟩
          | some _ =>
              match cpu.launchFailure with
              | some code =>
                  ⟨.error (.launchFailed (.ofCode code)), vcpu.prepared,
                    (cpu.withFields fields).withFailedLaunch code⟩
              | none =>
                  ⟨.ok (), vcpu.prepared.atStage .launched,
                    (cpu.withFields fields).withLaunched⟩ := by
  have bitmap : vcpu.prepared.memory.msrBitmapAddress = vcpu.memory.msrBitmapAddress := rfl
  obtain ⟨fields, populated⟩ := SimulatedProcessor.run_populate current vcpu.prepared.memory
  refine ⟨fields, by rw [populated, SimulatedProcessor.withFields], ?_⟩
  unfold fillAndLaunch
  rw [Hardware.execute_bind, Hardware.execute_owned, run_prepare, Execution.andThen_ok,
    execute_report_bind, Hardware.execute_bind, Hardware.execute_get, Execution.andThen_ok,
    Hardware.execute_bind, Hardware.execute_procedure, populated, bitmap]
  cases cpu.physicalAddress vcpu.memory.msrBitmapAddress with
  | none => rfl
  | some bitmap =>
      have failure : (cpu.withFields fields).launchFailure = cpu.launchFailure := rfl
      have launched := run_launch (cpu.withFields fields) current
      rw [Execution.andThen_ok, launchGuest, execute_report_bind, Hardware.execute_bind,
        Hardware.execute_procedure, ← SimulatedProcessor.withFields, launched, failure]
      cases cpu.launchFailure with
      | none => rfl
      | some code => rfl

/-! ## The ends of a bring-up -/

/-- VMX operation can be entered with the VMXON region at `vmxon`. -/
structure EntersVmx (vmxon : Word) : Prop where
  mapped : cpu.physicalAddress vcpu.memory.vmxonAddress = some vmxon
  aligned : vmxon.extractLsb' 0 12 = 0
  outside : cpu.vmxOperation = false
  allowed : cpu.adjustedCr4 &&& cr4Vmxe ≠ 0

/-- The processor while the VMCS at `vmcs` is filled. -/
def fillingProcessor (vmxon vmcs : Word) : SimulatedProcessor :=
  ((cpu.withVmxEnabled featureControl).withVmxOn vmxon).withVmcsLoaded vmcs

theorem offset_fillingProcessor (vmxon vmcs : Word) :
    (fillingProcessor cpu featureControl vmxon vmcs).physicalOffset = cpu.physicalOffset := rfl

/-- The VMCS at `vmcs` is loaded and filled with `fields`. -/
structure FillsVmcs (vmxon vmcs : Word) (fields : Vmcs.Field → Option Word) : Prop extends
    EntersVmx vcpu cpu vmxon where
  vmcsMapped : cpu.physicalAddress vcpu.memory.vmcsAddress = some vmcs
  populated : (hardware.run (Vmcs.populate (vcpu.filling cpu).memory).run
      (fillingProcessor cpu featureControl vmxon vmcs)).2
    = (fillingProcessor cpu featureControl vmxon vmcs).withFields fields

/-- The ends of a bring-up, each with the conditions under which it is reached. -/
inductive BringUpEnds : Execution Vcpu SimulatedProcessor Unit → Prop
  /-- The VMXON region is not mapped or not aligned. -/
  | unusableVmxon {error : Error}
      (unusable : cpu.pageAddress "VMXON" vcpu.memory.vmxonAddress = .error error) :
      BringUpEnds ⟨.error error, vcpu.entering cpu, cpu.withVmxEnabled featureControl⟩
  /-- VMXON is refused. -/
  | refusedVmxon {vmxon : Word}
      (usable : cpu.pageAddress "VMXON" vcpu.memory.vmxonAddress = .ok vmxon)
      (refused : cpu.vmxOperation = true ∨ cpu.adjustedCr4 &&& cr4Vmxe = 0) :
      BringUpEnds ⟨.error (.vmxInstruction "VMXON" .invalid), vcpu.entering cpu,
        (cpu.withVmxEnabled featureControl).record (.vmxon vmxon)⟩
  /-- The VMCS is not mapped. -/
  | unmappedVmcs {vmxon : Word} (enters : EntersVmx vcpu cpu vmxon)
      (unmapped : cpu.physicalAddress vcpu.memory.vmcsAddress = none) :
      BringUpEnds ⟨.error (.unmappedAddress vcpu.memory.vmcsAddress), vcpu.loading cpu,
        (cpu.withVmxEnabled featureControl).withVmxOn vmxon⟩
  /-- The MSR bitmap is not mapped. -/
  | unmappedBitmap {vmxon vmcs : Word} {fields : Vmcs.Field → Option Word}
      (fills : FillsVmcs vcpu cpu featureControl vmxon vmcs fields)
      (unmapped : cpu.physicalAddress vcpu.memory.msrBitmapAddress = none) :
      BringUpEnds ⟨.error (.unmappedAddress vcpu.memory.msrBitmapAddress), vcpu.filling cpu,
        (fillingProcessor cpu featureControl vmxon vmcs).withFields fields⟩
  /-- The launch is made to fail. -/
  | failedLaunch {vmxon vmcs bitmap : Word} {fields : Vmcs.Field → Option Word} {code : BitVec 32}
      (fills : FillsVmcs vcpu cpu featureControl vmxon vmcs fields)
      (mapped : cpu.physicalAddress vcpu.memory.msrBitmapAddress = some bitmap)
      (fails : cpu.launchFailure = some code) :
      BringUpEnds ⟨.error (.launchFailed (.ofCode code)), vcpu.filling cpu,
        ((fillingProcessor cpu featureControl vmxon vmcs).withFields fields).withFailedLaunch code⟩
  /-- The guest is launched. -/
  | launched {vmxon vmcs bitmap : Word} {fields : Vmcs.Field → Option Word}
      (fills : FillsVmcs vcpu cpu featureControl vmxon vmcs fields)
      (mapped : cpu.physicalAddress vcpu.memory.msrBitmapAddress = some bitmap)
      (succeeds : cpu.launchFailure = none) :
      BringUpEnds ⟨.ok (), (vcpu.filling cpu).atStage .launched,
        ((fillingProcessor cpu featureControl vmxon vmcs).withFields fields).withLaunched⟩

/-- The VMCS lies one page behind the VMXON region, in physical memory as well. -/
theorem vmcs_eq_vmxon_add_page {vmxon vmcs : Word}
    (vmxonMapped : cpu.physicalAddress vcpu.memory.vmxonAddress = some vmxon)
    (vmcsMapped : cpu.physicalAddress vcpu.memory.vmcsAddress = some vmcs) :
    vmcs = vmxon + 0x1000 := by
  obtain ⟨-, rfl⟩ := SimulatedProcessor.physicalAddress_eq_some.1 vmxonMapped
  obtain ⟨-, rfl⟩ := SimulatedProcessor.physicalAddress_eq_some.1 vmcsMapped
  rw [VcpuMemory.vmxonAddress, VcpuMemory.vmcsAddress]
  bv_omega

/-- The ends of a bring-up that gets as far as loading the VMCS. -/
theorem fillAndLaunch_ends {vmxon vmcs : Word} (enters : EntersVmx vcpu cpu vmxon)
    (vmcsMapped : cpu.physicalAddress vcpu.memory.vmcsAddress = some vmcs) :
    BringUpEnds vcpu cpu featureControl
      (hardware.execute ((vcpu.loading cpu).atStage .vmcsLoaded)
        (fillingProcessor cpu featureControl vmxon vmcs) fillAndLaunch) := by
  obtain ⟨fields, populated, ends⟩ := execute_fillAndLaunch
    ((vcpu.loading cpu).atStage .vmcsLoaded) (fillingProcessor cpu featureControl vmxon vmcs) rfl
  have fills : FillsVmcs vcpu cpu featureControl vmxon vmcs fields :=
    { enters with vmcsMapped, populated }
  have bitmapMapped := SimulatedProcessor.physicalAddress_congr
    (offset_fillingProcessor cpu featureControl vmxon vmcs) vcpu.memory.msrBitmapAddress
  have failure : (fillingProcessor cpu featureControl vmxon vmcs).launchFailure
      = cpu.launchFailure := rfl
  rw [ends, memory_atStage, loading_msrBitmapAddress, bitmapMapped, failure]
  cases mapped : cpu.physicalAddress vcpu.memory.msrBitmapAddress with
  | none => exact .unmappedBitmap fills mapped
  | some bitmap =>
      cases fails : cpu.launchFailure with
      | none => exact .launched fills mapped fails
      | some code => exact .failedLaunch fills mapped fails

variable {vcpu cpu} in
/-- VMX operation is entered if it can be. -/
theorem EntersVmx.execute_enterVmx {vmxon : Word} (enters : EntersVmx vcpu cpu vmxon) :
    hardware.execute (vcpu.withVmxEnabled cpu) (cpu.withVmxEnabled featureControl) enterVmx
      = ⟨.ok (), (vcpu.entering cpu).atStage .vmxOn,
          (cpu.withVmxEnabled featureControl).withVmxOn vmxon⟩ := by
  have region := SimulatedProcessor.pageAddress_congr
    (offset_withVmxEnabled cpu featureControl) "VMXON" vcpu.memory.vmxonAddress
  have admits : (cpu.withVmxEnabled featureControl).AdmitsVmxon :=
    (admitsVmxon_withVmxEnabled cpu featureControl).2 ⟨enters.outside, enters.allowed⟩
  rw [Vcpu.execute_enterVmx, memory_withVmxEnabled, region,
    SimulatedProcessor.pageAddress_eq_ok.2 ⟨enters.mapped, enters.aligned⟩,
    vmxonStamped_withVmxEnabled]
  simp only [admits, if_true]

variable {vcpu cpu} in
/-- Behind an aligned VMXON region the VMCS is aligned as well. -/
theorem EntersVmx.vmcsRegion {vmxon vmcs : Word} (enters : EntersVmx vcpu cpu vmxon)
    (vmcsMapped : cpu.physicalAddress vcpu.memory.vmcsAddress = some vmcs) :
    cpu.pageAddress "VMCS" vcpu.memory.vmcsAddress = .ok vmcs := by
  refine SimulatedProcessor.pageAddress_eq_ok.2 ⟨vmcsMapped, ?_⟩
  rw [vmcs_eq_vmxon_add_page vcpu cpu enters.mapped vmcsMapped]
  exact SimulatedProcessor.aligned_add_page enters.aligned

variable {vcpu cpu} in
/-- In VMX operation the VMCS is loaded if it is mapped. -/
theorem EntersVmx.execute_loadVmcs {vmxon vmcs : Word} (enters : EntersVmx vcpu cpu vmxon)
    (vmcsMapped : cpu.physicalAddress vcpu.memory.vmcsAddress = some vmcs) :
    hardware.execute ((vcpu.entering cpu).atStage .vmxOn)
        ((cpu.withVmxEnabled featureControl).withVmxOn vmxon) loadVmcs
      = ⟨.ok (), (vcpu.loading cpu).atStage .vmcsLoaded,
          fillingProcessor cpu featureControl vmxon vmcs⟩ := by
  have on : ((cpu.withVmxEnabled featureControl).withVmxOn vmxon).vmxOperation = true := rfl
  have region := SimulatedProcessor.pageAddress_congr
    (offset_withVmxOn cpu featureControl vmxon) "VMCS" vcpu.memory.vmcsAddress
  rw [Vcpu.execute_loadVmcs _ _ on, memory_atStage, entering_vmcsAddress, region,
    enters.vmcsRegion vmcsMapped, vmcsStamped_withVmxOn, fillingProcessor]

/-- **Every bring-up ends in one of these ways.** -/
theorem bringUpEnds :
    BringUpEnds vcpu cpu featureControl
      (hardware.execute vcpu cpu (bringUp featureControl)) := by
  have vmxonRegion := SimulatedProcessor.pageAddress_congr
    (offset_withVmxEnabled cpu featureControl) "VMXON" vcpu.memory.vmxonAddress
  rw [bringUp, Script.bringUp, Hardware.execute_bind, execute_enableVmx, Execution.andThen_ok,
    bringUpAdjusted, execute_report_bind, Hardware.execute_bind]
  cases usable : cpu.pageAddress "VMXON" vcpu.memory.vmxonAddress with
  | error error =>
      rw [execute_enterVmx, memory_withVmxEnabled, vmxonRegion, usable,
        vmxonStamped_withVmxEnabled]
      exact .unusableVmxon usable
  | ok vmxon =>
      obtain ⟨mapped, aligned⟩ := SimulatedProcessor.pageAddress_eq_ok.1 usable
      by_cases admits : (cpu.withVmxEnabled featureControl).AdmitsVmxon
      · obtain ⟨outside, allowed⟩ := (admitsVmxon_withVmxEnabled cpu featureControl).1 admits
        have enters : EntersVmx vcpu cpu vmxon := ⟨mapped, aligned, outside, allowed⟩
        rw [enters.execute_enterVmx, Execution.andThen_ok, execute_report_bind,
          Hardware.execute_bind]
        cases vmcsMapped : cpu.physicalAddress vcpu.memory.vmcsAddress with
        | none =>
            have on : ((cpu.withVmxEnabled featureControl).withVmxOn vmxon).vmxOperation = true :=
              rfl
            have vmcsRegion := SimulatedProcessor.pageAddress_congr
              (offset_withVmxOn cpu featureControl vmxon) "VMCS" vcpu.memory.vmcsAddress
            rw [execute_loadVmcs _ _ on, memory_atStage, entering_vmcsAddress, vmcsRegion,
              SimulatedProcessor.pageAddress_of_unmapped "VMCS" vmcsMapped, vmcsStamped_withVmxOn]
            exact .unmappedVmcs enters vmcsMapped
        | some vmcs =>
            rw [enters.execute_loadVmcs featureControl vmcsMapped]
            exact fillAndLaunch_ends vcpu cpu featureControl enters vmcsMapped
      · rw [execute_enterVmx, memory_withVmxEnabled, vmxonRegion, usable,
          vmxonStamped_withVmxEnabled]
        simp only [admits, if_false]
        rw [Execution.andThen_error]
        refine .refusedVmxon usable ?_
        rw [admitsVmxon_withVmxEnabled, Decidable.not_and_iff_not_or_not, Bool.not_eq_false,
          Decidable.not_not] at admits
        exact admits

/-! ## The ends of a virtualization -/

/-- The ends of `virtualize`. -/
inductive VirtualizeEnds : Execution Vcpu SimulatedProcessor Unit → Prop
  | alreadyVirtualized (busy : vcpu.stage ≠ .off) :
      VirtualizeEnds ⟨.error (.alreadyVirtualized vcpu.index), vcpu, cpu⟩
  /-- The capability check fails. -/
  | unsupported {error : Error} (off : vcpu.stage = .off)
      (fails : cpu.checkOutcome = .error error) : VirtualizeEnds ⟨.error error, vcpu, cpu⟩
  /-- The bring-up fails, and what was done is undone. -/
  | rolledBack {featureControl : FeatureControlState} {error : Error} {record : Vcpu}
      {state : SimulatedProcessor} (off : vcpu.stage = .off)
      (supported : cpu.checkOutcome = .ok featureControl)
      (fails : hardware.execute vcpu cpu (bringUp featureControl) = ⟨.error error, record, state⟩) :
      VirtualizeEnds ⟨.error error, record.atStage .off, record.undone state⟩
  /-- The guest runs. -/
  | launched {featureControl : FeatureControlState} {record : Vcpu} {state : SimulatedProcessor}
      (off : vcpu.stage = .off) (supported : cpu.checkOutcome = .ok featureControl)
      (succeeds : hardware.execute vcpu cpu (bringUp featureControl) = ⟨.ok (), record, state⟩) :
      VirtualizeEnds ⟨.ok (), record, state⟩

variable {vcpu cpu featureControl} in
theorem BringUpEnds.of_execute {execution : Execution Vcpu SimulatedProcessor Unit}
    (ran : hardware.execute vcpu cpu (bringUp featureControl) = execution) :
    BringUpEnds vcpu cpu featureControl execution :=
  ran ▸ bringUpEnds vcpu cpu featureControl

/-- Where a bring-up fails, the stage says no more than what was done. -/
theorem BringUpEnds.stage_sound {error : Error} {record : Vcpu} {state : SimulatedProcessor}
    (fails : BringUpEnds vcpu cpu featureControl ⟨.error error, record, state⟩) :
    record.stage ≠ .launched ∧ (record.stage.reached .vmxOn → state.vmxOperation = true) := by
  cases fails with
  | unusableVmxon => exact ⟨nofun, nofun⟩
  | refusedVmxon => exact ⟨nofun, nofun⟩
  | unmappedVmcs => exact ⟨nofun, fun _ => rfl⟩
  | unmappedBitmap => exact ⟨nofun, fun _ => rfl⟩
  | failedLaunch => exact ⟨nofun, fun _ => rfl⟩

/-- **Every virtualization ends in one of these ways.** -/
theorem virtualizeEnds : VirtualizeEnds vcpu cpu (hardware.execute vcpu cpu virtualize) := by
  unfold virtualize Script.virtualize
  rw [Hardware.execute_bind, Hardware.execute_get, Execution.andThen_ok]
  by_cases off : vcpu.stage = .off
  · rw [if_neg (not_not_intro off), attempt, execute_report_bind, Hardware.execute_bind,
      Hardware.execute_procedure, SimulatedProcessor.run_check]
    cases supported : cpu.checkOutcome with
    | error error => exact .unsupported off supported
    | ok featureControl =>
        rw [Execution.andThen_ok, Hardware.execute_tryCatch]
        rcases ran : hardware.execute vcpu cpu (bringUp featureControl)
          with ⟨error | value, record, state⟩
        · obtain ⟨pending, on⟩ := (BringUpEnds.of_execute ran).stage_sound
          dsimp only
          rw [giveUp, Hardware.execute_bind, Hardware.execute_get, Execution.andThen_ok,
            execute_report_bind, Hardware.execute_bind, Hardware.execute_owned,
            run_teardown record state pending on]
          exact .rolledBack off supported ran
        · exact .launched off supported ran
  · rw [if_pos off]
    exact .alreadyVirtualized off

variable {vcpu cpu featureControl}

/-- A virtual processor that is in use is left alone. -/
theorem execute_virtualize_of_busy (busy : vcpu.stage ≠ .off) :
    hardware.execute vcpu cpu virtualize
      = ⟨.error (.alreadyVirtualized vcpu.index), vcpu, cpu⟩ := by
  have ends := virtualizeEnds vcpu cpu
  revert ends
  generalize hardware.execute vcpu cpu virtualize = execution
  intro ends
  cases ends with
  | alreadyVirtualized => rfl
  | unsupported off | rolledBack off | launched off => exact absurd off busy

/-- A successful bring-up has filled the VMCS and launched the guest. -/
theorem BringUpEnds.of_ok {execution : Execution Vcpu SimulatedProcessor Unit}
    (ends : BringUpEnds vcpu cpu featureControl execution) (succeeds : execution.outcome = .ok ()) :
    ∃ vmxon vmcs fields, FillsVmcs vcpu cpu featureControl vmxon vmcs fields ∧
      execution = ⟨.ok (), (vcpu.filling cpu).atStage .launched,
        ((fillingProcessor cpu featureControl vmxon vmcs).withFields fields).withLaunched⟩ := by
  cases ends with
  | unusableVmxon | refusedVmxon | unmappedVmcs | unmappedBitmap | failedLaunch =>
      exact nomatch succeeds
  | launched fills => exact ⟨_, _, _, fills, rfl⟩

/-- A successful virtualization is a successful bring-up. -/
theorem VirtualizeEnds.of_ok {execution : Execution Vcpu SimulatedProcessor Unit}
    (ends : VirtualizeEnds vcpu cpu execution) (succeeds : execution.outcome = .ok ()) :
    ∃ featureControl, vcpu.stage = .off ∧ cpu.checkOutcome = .ok featureControl ∧
      hardware.execute vcpu cpu (bringUp featureControl) = execution := by
  cases ends with
  | alreadyVirtualized | unsupported | rolledBack => exact nomatch succeeds
  | launched off supported ran => exact ⟨_, off, supported, ran⟩

/-- A failed virtualization of a virtual processor in stage `off` changed nothing, or its bring-up
failed and was undone. -/
theorem VirtualizeEnds.of_error {execution : Execution Vcpu SimulatedProcessor Unit}
    {error : Error} (ends : VirtualizeEnds vcpu cpu execution) (off : vcpu.stage = .off)
    (fails : execution.outcome = .error error) :
    cpu.checkOutcome = .error error ∧ execution = ⟨.error error, vcpu, cpu⟩ ∨
    ∃ featureControl record state, cpu.checkOutcome = .ok featureControl ∧
      hardware.execute vcpu cpu (bringUp featureControl) = ⟨.error error, record, state⟩ ∧
      execution = ⟨.error error, record.atStage .off, record.undone state⟩ := by
  cases ends with
  | alreadyVirtualized busy => exact absurd off busy
  | unsupported _ unsupported =>
      obtain rfl := Except.error.inj fails
      exact .inl ⟨unsupported, rfl⟩
  | rolledBack _ supported ran =>
      obtain rfl := Except.error.inj fails
      exact .inr ⟨_, _, _, supported, ran, rfl⟩
  | launched => exact nomatch fails

end VtxMonitor.Vcpu
