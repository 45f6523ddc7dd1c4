import VtxMonitor.Proofs.Simulator.Instructions
import VtxMonitor.Vcpu.Basic

/-!
# Proofs/Vcpu/Phases — what each phase of the bring-up does to a simulated processor

One equation per phase: the capability check (`run_check`), adjusting the control registers
(`run_enableVmx`), entering VMX operation (`execute_enterVmx`), loading the VMCS
(`execute_loadVmcs`), preparing the host structures (`run_prepare`), the launch (`run_launch`) and
the teardown (`run_teardown`).  Each names the error of its phase and the states that it leaves the
virtual processor and the processor in.
-/

namespace VtxMonitor

/-- The lock of IA32_FEATURE_CONTROL and VMX outside of SMX are all that locking adds. -/
theorem Vcpu.lockedFeatureControl_eq (value : Word) :
    Vcpu.lockedFeatureControl value
      = value ||| (FeatureControl.locked.mask ||| FeatureControl.vmxOutsideSmx.mask) := by
  have union : Flag.union [FeatureControl.locked, FeatureControl.vmxOutsideSmx]
      = FeatureControl.locked.mask ||| FeatureControl.vmxOutsideSmx.mask := by decide
  rw [lockedFeatureControl, union]

namespace SimulatedProcessor

/-! ## Adjusting the control registers -/

/-- CR0 with the bits that VMX operation fixes. -/
def adjustedCr0 (cpu : SimulatedProcessor) : Word :=
  Vcpu.fixedBits cpu.cr0 (cpu.msrs Msr.cr0Fixed0) (cpu.msrs Msr.cr0Fixed1)

/-- CR4 with VMXE and the bits that VMX operation fixes. -/
def adjustedCr4 (cpu : SimulatedProcessor) : Word :=
  Vcpu.fixedBits (cpu.cr4 ||| cr4Vmxe) (cpu.msrs Msr.cr4Fixed0) (cpu.msrs Msr.cr4Fixed1)

/-- The MSRs after the control registers are adjusted: an unlocked IA32_FEATURE_CONTROL is
locked. -/
def lockedMsrs (cpu : SimulatedProcessor) : FeatureControlState → Msr.Number → Word
  | .enabled => cpu.msrs
  | .unlocked =>
      update cpu.msrs Msr.featureControl
        (Vcpu.lockedFeatureControl (cpu.msrs Msr.featureControl))

/-- The events of adjusting the control registers. -/
def enableEvents (cpu : SimulatedProcessor) (featureControl : FeatureControlState) : List Event :=
  [.disableInterrupts] ++
    (match featureControl with
    | .enabled => []
    | .unlocked =>
        [.writeMsr Msr.featureControl
          (Vcpu.lockedFeatureControl (cpu.msrs Msr.featureControl))]) ++
    [.writeCr .cr0 cpu.adjustedCr0, .writeCr .cr4 cpu.adjustedCr4, .enableInterrupts]

/-- The processor after the control registers are adjusted. -/
def withVmxEnabled (cpu : SimulatedProcessor) (featureControl : FeatureControlState) :
    SimulatedProcessor :=
  { cpu with
    msrs := cpu.lockedMsrs featureControl
    cr0 := cpu.adjustedCr0
    cr4 := cpu.adjustedCr4
    rflags := cpu.rflags ||| rflagsIf
    events := cpu.events ++ cpu.enableEvents featureControl }

/-! ## The capability check -/

/-- What the capability check answers. -/
def checkOutcome (cpu : SimulatedProcessor) : Except Error FeatureControlState :=
  if (cpu.cpuid 1).ecx &&& Support.cpuidVmx = 0 then .error .vmxNotSupported
  else if !FeatureControl.locked.isSetIn (cpu.msrs Msr.featureControl) then .ok .unlocked
  else if !FeatureControl.vmxOutsideSmx.isSetIn (cpu.msrs Msr.featureControl) then
    .error .vmxLockedOff
  else .ok .enabled

theorem run_check (cpu : SimulatedProcessor) :
    hardware.run Support.check.run cpu = (cpu.checkOutcome, cpu) := by
  unfold Support.check checkOutcome
  rw [Hardware.run_procedure_request]
  by_cases vmx : (cpu.cpuid 1).ecx &&& Support.cpuidVmx = 0
  · simp only [hardware, answer, vmx, if_true]
    rfl
  simp only [hardware, answer, vmx, if_false]
  rw [Hardware.run_procedure_request]
  cases locked : FeatureControl.locked.isSetIn (cpu.msrs Msr.featureControl) with
  | false =>
      simp only [answer, locked, Bool.not_false, if_true]
      rfl
  | true =>
      cases allowed : FeatureControl.vmxOutsideSmx.isSetIn (cpu.msrs Msr.featureControl) with
      | false =>
          simp only [answer, locked, allowed]
          rfl
      | true =>
          simp only [answer, locked, allowed]
          rfl

/-- The capability check asks for a lock exactly if IA32_FEATURE_CONTROL has none. -/
theorem isSetIn_locked {cpu : SimulatedProcessor} {featureControl : FeatureControlState}
    (supported : cpu.checkOutcome = .ok featureControl) :
    FeatureControl.locked.isSetIn (cpu.msrs Msr.featureControl)
      = decide (featureControl = .enabled) := by
  unfold checkOutcome at supported
  split at supported
  · exact nomatch supported
  · split at supported
    · next unlocked =>
        obtain rfl := Except.ok.inj supported
        simpa using unlocked
    · next locked =>
        split at supported
        · exact nomatch supported
        · obtain rfl := Except.ok.inj supported
          simpa using locked

/-! ## Page-aligned regions -/

/-- The physical address of a region, or why it cannot be used. -/
def pageAddress (cpu : SimulatedProcessor) (region : String) (address : Word) :
    Except Error Word :=
  match cpu.physicalAddress address with
  | none => .error (.unmappedAddress address)
  | some physical =>
      if physical.extractLsb' 0 12 = 0 then .ok physical
      else .error (.misalignedRegion region physical)

theorem pageAddress_congr {cpu cpu' : SimulatedProcessor}
    (h : cpu'.physicalOffset = cpu.physicalOffset) (region : String) (address : Word) :
    cpu'.pageAddress region address = cpu.pageAddress region address := by
  rw [pageAddress, pageAddress, physicalAddress_congr h]

theorem run_regionAddress (cpu : SimulatedProcessor) (region : String) (address : Word) :
    hardware.run (Vcpu.regionAddress region address).run cpu
      = (cpu.pageAddress region address, cpu) := by
  unfold Vcpu.regionAddress pageAddress
  rw [Hardware.run_procedure_bind, SimulatedProcessor.run_physicalAddress]
  cases cpu.physicalAddress address with
  | none => rfl
  | some physical =>
      by_cases aligned : physical.extractLsb' 0 12 = 0
      · simp only [aligned, if_true]
        rfl
      · simp only [aligned, if_false]
        rfl

theorem pageAddress_of_unmapped {cpu : SimulatedProcessor} {address : Word} (region : String)
    (unmapped : cpu.physicalAddress address = none) :
    cpu.pageAddress region address = .error (.unmappedAddress address) := by
  rw [pageAddress, unmapped]

theorem pageAddress_eq_ok {cpu : SimulatedProcessor} {region : String} {address physical : Word} :
    cpu.pageAddress region address = .ok physical
      ↔ cpu.physicalAddress address = some physical ∧ physical.extractLsb' 0 12 = 0 := by
  unfold pageAddress
  cases cpu.physicalAddress address with
  | none => simp
  | some found =>
      by_cases aligned : found.extractLsb' 0 12 = 0
      · simp only [aligned, if_true, Except.ok.injEq, Option.some.injEq]
        exact ⟨fun h => ⟨h, h ▸ aligned⟩, And.left⟩
      · simp only [aligned, if_false, reduceCtorEq, Option.some.injEq, false_iff, not_and]
        rintro rfl
        exact aligned

/-- The revision identifier that the processor reports. -/
def revisionId (cpu : SimulatedProcessor) : BitVec 32 :=
  (VmxBasic.mk (cpu.msrs Msr.vmxBasic)).revisionId.setWidth 32

/-- The processor after VMXON and INVEPT succeeded. -/
def withVmxOn (cpu : SimulatedProcessor) (vmxon : Word) : SimulatedProcessor :=
  { cpu with
    vmxOperation := true
    events := cpu.events ++ [.vmxon vmxon, .inveptAllContexts] }

/-- The processor after the VMCS is loaded. -/
def withVmcsLoaded (cpu : SimulatedProcessor) (vmcs : Word) : SimulatedProcessor :=
  { cpu with
    currentVmcs := some vmcs
    events := cpu.events ++ [.vmclear vmcs, .vmptrld vmcs] }

theorem lockedMsrs_of_ne (cpu : SimulatedProcessor) (featureControl : FeatureControlState)
    {msr : Msr.Number} (h : msr ≠ Msr.featureControl) :
    cpu.lockedMsrs featureControl msr = cpu.msrs msr := by
  cases featureControl with
  | enabled => rfl
  | unlocked => exact update_of_ne _ _ h

/-- The processor after the current VMCS is filled with `fields`. -/
def withFields (cpu : SimulatedProcessor) (fields : Vmcs.Field → Option Word) :
    SimulatedProcessor :=
  { cpu with fields }

/-- The processor after a launch failed with an error number. -/
def withFailedLaunch (cpu : SimulatedProcessor) (code : BitVec 32) : SimulatedProcessor :=
  { cpu with
    fields := update cpu.fields .instructionError (some (code.setWidth 64))
    events := cpu.events ++ [.vmlaunch] }

/-- The processor after a launch succeeded. -/
def withLaunched (cpu : SimulatedProcessor) : SimulatedProcessor :=
  { cpu with launched := true, events := cpu.events ++ [.vmlaunch] }

theorem vmlaunch_of_current {cpu : SimulatedProcessor} (current : cpu.currentVmcs.isSome) :
    cpu.vmlaunch = match cpu.launchFailure with
      | some code => (.error .valid, cpu.withFailedLaunch code)
      | none => (.ok (), cpu.withLaunched) := by
  simp only [vmlaunch, record, Option.isNone_eq_false_iff.2 current]
  rfl

end SimulatedProcessor

namespace Vcpu

open SimulatedProcessor (hardware)
open Script

variable (vcpu : Vcpu) (cpu : SimulatedProcessor)

/-- The virtual processor with another stage. -/
def atStage (stage : Stage) : Vcpu := { vcpu with stage }

@[simp] theorem stage_atStage (stage : Stage) : (vcpu.atStage stage).stage = stage := rfl

@[simp] theorem memory_atStage (stage : Stage) : (vcpu.atStage stage).memory = vcpu.memory := rfl

/-- The virtual processor after the control registers are adjusted. -/
def withVmxEnabled : Vcpu :=
  { vcpu with savedCr0 := cpu.cr0, savedCr4 := cpu.cr4, stage := .vmxEnabled }

theorem enableVmx_enabled :
    enableVmx .enabled
      = liftM (Program.request .disableInterrupts) >>= fun _ => adjustControlRegisters := rfl

theorem enableVmx_unlocked :
    enableVmx .unlocked = liftM (Program.request .disableInterrupts) >>= fun _ =>
      liftM lockFeatureControl >>= fun _ => adjustControlRegisters := rfl

theorem run_lockFeatureControl :
    hardware.run lockFeatureControl cpu
      = ((), (cpu.record (.writeMsr Msr.featureControl
          (lockedFeatureControl (cpu.msrs Msr.featureControl)))).setMsr Msr.featureControl
            (lockedFeatureControl (cpu.msrs Msr.featureControl))) := rfl

theorem run_adjustControlRegisters :
    hardware.run (adjustControlRegisters.run vcpu) cpu
      = (((), vcpu.withVmxEnabled cpu),
        { cpu with
          cr0 := cpu.adjustedCr0
          cr4 := cpu.adjustedCr4
          rflags := cpu.rflags ||| rflagsIf
          events := cpu.events ++ [.writeCr .cr0 cpu.adjustedCr0, .writeCr .cr4 cpu.adjustedCr4,
            .enableInterrupts] }) := by
  unfold adjustControlRegisters
  rw [Hardware.run_owned_request, Hardware.run_owned_request, Hardware.run_owned_modify]
  repeat rw [Hardware.run_owned_request]
  change (((), vcpu.withVmxEnabled cpu), _) = _
  simp [hardware, SimulatedProcessor.answer, SimulatedProcessor.record, SimulatedProcessor.setCr,
    SimulatedProcessor.readCr, SimulatedProcessor.adjustedCr0, SimulatedProcessor.adjustedCr4]

theorem run_enableVmx (featureControl : FeatureControlState) :
    hardware.run ((enableVmx featureControl).run vcpu) cpu
      = (((), vcpu.withVmxEnabled cpu), cpu.withVmxEnabled featureControl) := by
  have read : ∀ msr ∈ [Msr.cr0Fixed0, Msr.cr0Fixed1, Msr.cr4Fixed0, Msr.cr4Fixed1],
      update cpu.msrs Msr.featureControl (lockedFeatureControl (cpu.msrs Msr.featureControl)) msr
        = cpu.msrs msr := fun msr mem => update_of_ne _ _ (by
    rintro rfl
    exact absurd mem (by decide))
  cases featureControl with
  | enabled =>
      rw [enableVmx_enabled, Hardware.run_owned_request, run_adjustControlRegisters]
      simp [hardware, SimulatedProcessor.answer, SimulatedProcessor.record,
        SimulatedProcessor.withVmxEnabled, SimulatedProcessor.enableEvents,
        SimulatedProcessor.lockedMsrs, SimulatedProcessor.rflags_restored, withVmxEnabled,
        SimulatedProcessor.adjustedCr0, SimulatedProcessor.adjustedCr4]
  | unlocked =>
      rw [enableVmx_unlocked, Hardware.run_owned_request, Hardware.run_owned_program,
        run_lockFeatureControl, run_adjustControlRegisters]
      simp [hardware, SimulatedProcessor.answer, SimulatedProcessor.record,
        SimulatedProcessor.withVmxEnabled, SimulatedProcessor.enableEvents,
        SimulatedProcessor.lockedMsrs, SimulatedProcessor.rflags_restored, withVmxEnabled,
        SimulatedProcessor.adjustedCr0, SimulatedProcessor.adjustedCr4, SimulatedProcessor.setMsr,
        read]

theorem execute_enableVmx (featureControl : FeatureControlState) :
    hardware.execute vcpu cpu (liftM (enableVmx featureControl) : Fallible Vcpu Unit)
      = ⟨.ok (), vcpu.withVmxEnabled cpu, cpu.withVmxEnabled featureControl⟩ := by
  rw [Hardware.execute_owned, run_enableVmx]

/-! ## Entering VMX operation -/

/-- The virtual processor after its VMXON region is stamped. -/
def vmxonStamped : Vcpu :=
  { vcpu with memory.vmxon := vcpu.memory.vmxon.stamp cpu.revisionId }

theorem execute_enter (stage : Stage) :
    hardware.execute vcpu cpu (liftM (enter stage) : Fallible Vcpu Unit)
      = ⟨.ok (), vcpu.atStage stage, cpu⟩ := rfl

/-- A VMX instruction, of which a failure becomes the error that names it. -/
theorem execute_instruction {cpu cpu' : SimulatedProcessor} {outcome : Except VmFail Unit}
    (label : String) {program : Program (Except VmFail Unit)}
    (h : hardware.run program cpu = (outcome, cpu')) :
    hardware.execute vcpu cpu (liftM (instruction label program) : Fallible Vcpu Unit)
      = ⟨outcome.mapError (.vmxInstruction label), vcpu, cpu'⟩ := by
  have attempted : hardware.run (instruction label program).run cpu
      = ((hardware.run program cpu).1.mapError (.vmxInstruction label),
        (hardware.run program cpu).2) := Hardware.run_bind _ _ _ _
  rw [Hardware.execute_procedure, attempted, h]

theorem execute_stampRegion (region : String) (stamp : BitVec 32 → VcpuMemory → VcpuMemory)
    (address : VcpuMemory → Word) :
    let stamped := { vcpu with memory := stamp cpu.revisionId vcpu.memory }
    hardware.execute vcpu cpu (stampRegion region stamp address)
      = ⟨cpu.pageAddress region (address stamped.memory), stamped, cpu⟩ := by
  unfold stampRegion
  rw [Hardware.execute_bind, Hardware.execute_program, Execution.andThen_ok,
    Hardware.execute_bind, Hardware.execute_modify, Execution.andThen_ok,
    Hardware.execute_bind, Hardware.execute_get, Execution.andThen_ok,
    Hardware.execute_procedure, SimulatedProcessor.run_regionAddress]
  rfl

/-- Stamping a region goes on with its physical address. -/
theorem execute_stampRegion_bind (region : String) (stamp : BitVec 32 → VcpuMemory → VcpuMemory)
    (address : VcpuMemory → Word) (next : Word → Fallible Vcpu Unit) :
    let stamped := { vcpu with memory := stamp cpu.revisionId vcpu.memory }
    hardware.execute vcpu cpu (stampRegion region stamp address >>= next)
      = match cpu.pageAddress region (address stamped.memory) with
        | .error error => ⟨.error error, stamped, cpu⟩
        | .ok physical => hardware.execute stamped cpu (next physical) := by
  intro stamped
  rw [Hardware.execute_bind, execute_stampRegion]
  cases cpu.pageAddress region (address stamped.memory) <;> rfl

theorem execute_enterVmx_stamped :
    hardware.execute vcpu cpu enterVmx
      = match cpu.pageAddress "VMXON" vcpu.memory.vmxonAddress with
        | .error error => ⟨.error error, vcpu.vmxonStamped cpu, cpu⟩
        | .ok vmxon => hardware.execute (vcpu.vmxonStamped cpu) cpu (enterVmxAt vmxon) :=
  execute_stampRegion_bind ..

theorem execute_enterVmx :
    hardware.execute vcpu cpu enterVmx
      = match cpu.pageAddress "VMXON" vcpu.memory.vmxonAddress with
        | .error error => ⟨.error error, vcpu.vmxonStamped cpu, cpu⟩
        | .ok vmxon =>
            if cpu.AdmitsVmxon then
              ⟨.ok (), (vcpu.vmxonStamped cpu).atStage .vmxOn, cpu.withVmxOn vmxon⟩
            else
              ⟨.error (.vmxInstruction "VMXON" .invalid), vcpu.vmxonStamped cpu,
                cpu.record (.vmxon vmxon)⟩ := by
  rw [execute_enterVmx_stamped]
  cases h : cpu.pageAddress "VMXON" vcpu.memory.vmxonAddress with
  | error error => rfl
  | ok vmxon =>
      have aligned := (SimulatedProcessor.pageAddress_eq_ok.1 h).2
      have answered := SimulatedProcessor.run_vmxon cpu aligned
      dsimp only
      rw [enterVmxAt, Hardware.execute_bind]
      by_cases admits : cpu.AdmitsVmxon
      · rw [if_pos admits] at answered
        rw [execute_instruction _ "VMXON" answered, mapError_ok, Execution.andThen_ok,
          Hardware.execute_bind, execute_enter, Execution.andThen_ok,
          execute_instruction _ "INVEPT" (SimulatedProcessor.run_inveptAll _ rfl)]
        simp [mapError_ok, admits, SimulatedProcessor.record, SimulatedProcessor.withVmxOn]
      · rw [if_neg admits] at answered
        rw [execute_instruction _ "VMXON" answered, mapError_error, Execution.andThen_error]
        simp [admits]

/-! ## Loading the VMCS -/

/-- The virtual processor after its VMCS region is stamped. -/
def vmcsStamped : Vcpu :=
  { vcpu with memory.vmcs := vcpu.memory.vmcs.stamp cpu.revisionId }

theorem execute_loadVmcs_stamped :
    hardware.execute vcpu cpu loadVmcs
      = match cpu.pageAddress "VMCS" vcpu.memory.vmcsAddress with
        | .error error => ⟨.error error, vcpu.vmcsStamped cpu, cpu⟩
        | .ok vmcs => hardware.execute (vcpu.vmcsStamped cpu) cpu (loadVmcsAt vmcs) :=
  execute_stampRegion_bind ..

theorem execute_loadVmcs (on : cpu.vmxOperation = true) :
    hardware.execute vcpu cpu loadVmcs
      = match cpu.pageAddress "VMCS" vcpu.memory.vmcsAddress with
        | .error error => ⟨.error error, vcpu.vmcsStamped cpu, cpu⟩
        | .ok vmcs =>
            ⟨.ok (), (vcpu.vmcsStamped cpu).atStage .vmcsLoaded,
              cpu.withVmcsLoaded vmcs⟩ := by
  rw [execute_loadVmcs_stamped]
  cases cpu.pageAddress "VMCS" vcpu.memory.vmcsAddress with
  | error error => rfl
  | ok vmcs =>
      have cleared := SimulatedProcessor.run_vmclear cpu vmcs on
      dsimp only
      rw [loadVmcsAt, Hardware.execute_bind, execute_instruction _ "VMCLEAR" cleared,
        mapError_ok, Execution.andThen_ok, Hardware.execute_bind,
        execute_instruction _ "VMPTRLD" (SimulatedProcessor.run_vmptrld _ vmcs (by exact on)),
        mapError_ok, Execution.andThen_ok, execute_enter]
      simp [SimulatedProcessor.record, SimulatedProcessor.withVmcsLoaded]

/-- Outside of VMX operation no VMCS is loaded. -/
theorem execute_loadVmcs_outside (outside : cpu.vmxOperation = false) :
    hardware.execute vcpu cpu loadVmcs
      = match cpu.pageAddress "VMCS" vcpu.memory.vmcsAddress with
        | .error error => ⟨.error error, vcpu.vmcsStamped cpu, cpu⟩
        | .ok vmcs =>
            ⟨.error (.vmxInstruction "VMCLEAR" .invalid), vcpu.vmcsStamped cpu,
              cpu.record (.vmclear vmcs)⟩ := by
  rw [execute_loadVmcs_stamped]
  cases cpu.pageAddress "VMCS" vcpu.memory.vmcsAddress with
  | error error => rfl
  | ok vmcs =>
      have refused := SimulatedProcessor.run_vmclear_outside cpu vmcs outside
      dsimp only
      rw [loadVmcsAt, Hardware.execute_bind, execute_instruction _ "VMCLEAR" refused,
        mapError_error, Execution.andThen_error]

/-! ## Preparing the host structures -/

/-- The virtual processor after its host structures are prepared. -/
def prepared : Vcpu :=
  { vcpu with
    memory := { vcpu.memory with
      vcpuPointer := vcpu.address
      marker := stackMarker
      msrBitmap := vcpu.intercepts.apply .empty
      tss := .zero
      idt := .routing SimulatedProcessor.interruptEntryPoint
      gdt := HostGdt.forTask vcpu.memory.tssAddress } }

theorem apply_of_isEmpty {intercepts : MsrIntercepts} (empty : intercepts.isEmpty = true) :
    intercepts.apply .empty = .empty := by
  obtain ⟨reads, writes⟩ := intercepts
  obtain ⟨rfl, rfl⟩ : reads = [] ∧ writes = [] := by simpa [MsrIntercepts.isEmpty] using empty
  rfl

theorem run_reportAll (diagnostics : List Diagnostic) :
    hardware.run (Program.reportAll diagnostics) cpu = ((), cpu) := by
  induction diagnostics with
  | nil => rfl
  | cons diagnostic rest ih => exact ih

/-- Hooking accesses reports, and leaves the processor as it is. -/
theorem run_install (intercepts : MsrIntercepts) (bitmap : MsrBitmap) :
    hardware.run (intercepts.install bitmap) cpu = (intercepts.apply bitmap, cpu) := by
  rw [MsrIntercepts.install, Hardware.run_bind, run_reportAll]
  rfl

theorem run_prepare : hardware.run (prepare.run vcpu) cpu = (((), vcpu.prepared), cpu) := by
  have tables : hardware.run vcpu.memory.prepareTables cpu
      = ({ vcpu.memory with
            msrBitmap := .empty
            tss := .zero
            idt := .routing SimulatedProcessor.interruptEntryPoint
            gdt := HostGdt.forTask vcpu.memory.tssAddress }, cpu) := by
    rw [VcpuMemory.prepareTables, HostGdt.prepare_eq]
    rfl
  unfold prepare
  rw [Hardware.run_owned_get, Hardware.run_owned_program, tables, Hardware.run_owned_set]
  cases empty : vcpu.intercepts.isEmpty with
  | true =>
      rw [prepared, apply_of_isEmpty empty]
      rfl
  | false =>
      simp only [Bool.not_false, if_true]
      rw [Hardware.run_owned_report, Hardware.run_owned_program, run_install]
      rfl

/-! ## The launch -/

/-- The error number that a failed launch left in the current VMCS explains it. -/
theorem run_launchError (current : cpu.currentVmcs.isSome) {code : BitVec 32}
    (stored : cpu.fields .instructionError = some (code.setWidth 64)) :
    hardware.run (Vmcs.launchError .valid) cpu = (.ofCode code, cpu) := by
  have read : hardware.run (Vmcs.read .instructionError).run cpu
      = (.ok (code.setWidth 64), cpu) := by
    change ((cpu.vmread .instructionError).mapError _, cpu) = _
    rw [SimulatedProcessor.vmread, Option.isNone_eq_false_iff.2 current, stored]
    rfl
  have decoded : hardware.run Vmcs.readInstructionError.run cpu = (.ok (.ofCode code), cpu) := by
    have width : (code.setWidth 64).setWidth 32 = code := by simp
    rw [Vmcs.readInstructionError, Hardware.run_procedure_bind, read]
    change (Except.ok (InstructionError.ofCode ((code.setWidth 64).setWidth 32)), cpu) = _
    rw [width]
  rw [Vmcs.launchError, Procedure.orElse, Hardware.run_bind, decoded]
  rfl

theorem run_launch (current : cpu.currentVmcs.isSome) :
    hardware.run Vmcs.launch.run cpu
      = match cpu.launchFailure with
        | some code => (.error (.launchFailed (.ofCode code)), cpu.withFailedLaunch code)
        | none => (.ok (), cpu.withLaunched) := by
  unfold Vmcs.launch
  rw [Hardware.run_procedure_request]
  simp only [hardware, SimulatedProcessor.answer, SimulatedProcessor.vmlaunch_of_current current]
  cases cpu.launchFailure with
  | none => rfl
  | some code =>
      have explained := run_launchError (cpu.withFailedLaunch code) (by exact current)
        (update_self cpu.fields .instructionError (some (code.setWidth 64)))
      dsimp only
      rw [Vmcs.answerLaunch, Hardware.run_procedure_program, ← hardware, explained]
      rfl

/-! ## The teardown -/

/-- The events of undoing what was done. -/
def undoEvents : List Event :=
  (if vcpu.stage.reached .vmcsLoaded then
    (cpu.physicalAddress vcpu.memory.vmcsAddress).toList.map .vmclear else []) ++
  (if vcpu.stage.reached .vmxOn then [.vmxoff] else []) ++
  (if vcpu.stage.reached .vmxEnabled then
    [.disableInterrupts, .writeCr .cr4 vcpu.savedCr4, .writeCr .cr0 vcpu.savedCr0,
      .enableInterrupts] else [])

/-- The processor after what was done is undone. -/
def undone : SimulatedProcessor :=
  { cpu with
    cr0 := if vcpu.stage.reached .vmxEnabled then vcpu.savedCr0 else cpu.cr0
    cr4 := if vcpu.stage.reached .vmxEnabled then vcpu.savedCr4 else cpu.cr4
    rflags := if vcpu.stage.reached .vmxEnabled then cpu.rflags ||| rflagsIf else cpu.rflags
    vmxOperation := if vcpu.stage.reached .vmxOn then false else cpu.vmxOperation
    currentVmcs := if vcpu.stage.reached .vmxOn then none else cpu.currentVmcs
    events := cpu.events ++ vcpu.undoEvents cpu }

/-- In VMX operation the VMCS is cleared if it is mapped. -/
theorem run_clearVmcs (memory : VcpuMemory) (on : cpu.vmxOperation = true) :
    ∃ current, hardware.run (clearVmcs memory) cpu
      = ((), { cpu with
          currentVmcs := current
          events := cpu.events ++
            (cpu.physicalAddress memory.vmcsAddress).toList.map .vmclear }) := by
  rw [clearVmcs, Hardware.run_bind, SimulatedProcessor.run_physicalAddress]
  cases cpu.physicalAddress memory.vmcsAddress with
  | none => exact ⟨cpu.currentVmcs, by simp; rfl⟩
  | some vmcs =>
      dsimp only
      rw [Hardware.run_bind, SimulatedProcessor.run_vmclear cpu vmcs on]
      exact ⟨_, rfl⟩

theorem run_leaveVmx (on : cpu.vmxOperation = true) :
    hardware.run leaveVmx cpu
      = ((), { cpu.record .vmxoff with vmxOperation := false, currentVmcs := none }) := by
  have left : hardware.run (Program.request .vmxoff) cpu
      = (.ok (), { cpu.record .vmxoff with vmxOperation := false, currentVmcs := none }) := by
    change cpu.vmxoff = _
    simp only [SimulatedProcessor.vmxoff, SimulatedProcessor.record, on, if_true]
  rw [leaveVmx, Hardware.run_bind, left]
  rfl

theorem run_restoreControlRegisters (cr0 cr4 : Word) :
    hardware.run (restoreControlRegisters cr0 cr4) cpu
      = ((), { cpu with
          cr0 := cr0
          cr4 := cr4
          rflags := cpu.rflags ||| rflagsIf
          events := cpu.events ++
            [.disableInterrupts, .writeCr .cr4 cr4, .writeCr .cr0 cr0, .enableInterrupts] }) := by
  rw [← SimulatedProcessor.rflags_restored]
  simp [restoreControlRegisters, hardware, SimulatedProcessor.answer, Program.request,
    SimulatedProcessor.record, SimulatedProcessor.setCr]

theorem teardown_eq (pending : vcpu.stage ≠ .launched) :
    teardown.run vcpu = vcpu.undo >>= fun _ => pure ((), vcpu.atStage .off) := by
  have started : teardown.run vcpu = (ite (vcpu.stage = .launched)
      (liftM (Program.report (.runsGuest vcpu.index)))
      (liftM vcpu.undo >>= fun _ => enter .off) : Owned Vcpu Unit).run vcpu := rfl
  rw [started, if_neg pending]
  exact Program.bind_assoc ..

theorem run_undo (on : vcpu.stage.reached .vmxOn → cpu.vmxOperation = true) :
    hardware.run vcpu.undo cpu = ((), vcpu.undone cpu) := by
  have reported : ∀ cpu : SimulatedProcessor, hardware.run
      (Program.report (.toreDown vcpu.index vcpu.stage)) cpu = ((), cpu) := fun _ => rfl
  obtain ⟨index, address, stage, cr0, cr4, memory, handlers, intercepts⟩ := vcpu
  cases stage with
  | off => simp [undo, undoVmx, undone, undoEvents, Stage.reached, Stage.rank, reported]
  | vmxEnabled =>
      simp [undo, undoVmx, undone, undoEvents, Stage.reached, Stage.rank, reported, Hardware.run_bind,
        run_restoreControlRegisters]
  | vmxOn =>
      have on := on rfl
      simp [undo, undoVmx, undone, undoEvents, Stage.reached, Stage.rank, reported, Hardware.run_bind,
        run_leaveVmx, on, run_restoreControlRegisters, SimulatedProcessor.record]
  | vmcsLoaded | launched =>
      have on := on rfl
      obtain ⟨current, cleared⟩ := run_clearVmcs cpu memory on
      simp [undo, undoVmx, undone, undoEvents, Stage.reached, Stage.rank, reported, Hardware.run_bind,
        cleared, run_leaveVmx, on, run_restoreControlRegisters, SimulatedProcessor.record]

theorem run_teardown (pending : vcpu.stage ≠ .launched)
    (on : vcpu.stage.reached .vmxOn → cpu.vmxOperation = true) :
    hardware.run (teardown.run vcpu) cpu
      = (((), vcpu.atStage .off), vcpu.undone cpu) := by
  rw [teardown_eq vcpu pending, Hardware.run_bind, run_undo vcpu cpu on]
  rfl

/-- While the guest runs nothing is torn down. -/
theorem run_teardown_of_launched (launched : vcpu.stage = .launched) :
    hardware.run (teardown.run vcpu) cpu = (((), vcpu), cpu) := by
  unfold teardown
  rw [Hardware.run_owned_get, if_pos launched]
  rfl

end Vcpu

end VtxMonitor
