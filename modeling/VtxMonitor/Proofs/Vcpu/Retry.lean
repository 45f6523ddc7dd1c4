import VtxMonitor.Proofs.Vcpu.Requests
import VtxMonitor.Proofs.Vcpu.Residue

/-!
# Proofs/Vcpu/Retry — a virtualization after failed attempts is as good as the first one

The bring-up fills the VMCS from the same memory and on a processor that differs in nothing but
VMCS fields and events (`filling_residue`, `agree_fillingProcessor`), and every field that it
writes is written then (`FillsVmcs.of_writes`).  So **failed attempts have no influence on the next
virtualization**, however many they were.
-/

namespace VtxMonitor

open SimulatedProcessor (hardware AgreeOutsideVmcs)

/-- Launching on both keeps two processors in agreement. -/
theorem SimulatedProcessor.AgreeOutsideVmcs.withLaunched {cpu cpu' : SimulatedProcessor}
    (agree : AgreeOutsideVmcs cpu cpu') (fields fields' : Vmcs.Field → Option Word) :
    AgreeOutsideVmcs (cpu.withFields fields).withLaunched
      (cpu'.withFields fields').withLaunched := by
  rw [AgreeOutsideVmcs, agree]
  rfl

namespace Vcpu

variable {vcpu vcpu' : Vcpu} {cpu cpu' : SimulatedProcessor}
  {featureControl featureControl' : FeatureControlState} {vmxon vmxon' vmcs vmcs' : Word}
  {fields fields' : Vmcs.Field → Option Word}

/-! ## Where VMCS fields are written -/

/-- **A bring-up that loads the VMCS writes its fields while it fills it**, and at no other time. -/
theorem FillsVmcs.of_writes (fills : FillsVmcs vcpu cpu featureControl vmxon vmcs fields)
    {field : Vmcs.Field} {step : Operation × SimulatedProcessor} (writes : step.1.Writes field)
    (mem : step ∈ hardware.stepsOf vcpu cpu (bringUp featureControl)) :
    step ∈ hardware.steps (Vmcs.populate (vcpu.filling cpu).memory).run
      (fillingProcessor cpu featureControl vmxon vmcs) := by
  have excluded := writes.not_sparesVmcs
  have inert : ∀ op : Operation, op.Inert → op.SparesVmcs := fun _ => Operation.Inert.sparesVmcs
  have gets : Program.Only Operation.SparesVmcs
      (Fallible.start (get : Fallible Vcpu Vcpu) (vcpu.filling cpu)) := trivial
  have prepares : hardware.execute ((vcpu.loading cpu).atStage .vmcsLoaded)
      (fillingProcessor cpu featureControl vmxon vmcs) (liftM prepare : Fallible Vcpu Unit)
      = ⟨.ok (), vcpu.filling cpu, fillingProcessor cpu featureControl vmxon vmcs⟩ := by
    rw [Hardware.execute_owned, run_prepare, filling]
  replace mem := (enableVmx_sparesVmcs featureControl).start_owned.mem_rest
    (execute_enableVmx vcpu cpu featureControl) mem excluded
  replace mem := (report_only inert _).mem_rest rfl mem excluded
  replace mem := enterVmx_sparesVmcs.mem_rest (fills.execute_enterVmx featureControl) mem excluded
  replace mem := (report_only inert _).mem_rest rfl mem excluded
  replace mem := loadVmcs_sparesVmcs.mem_rest
    (fills.execute_loadVmcs featureControl fills.vmcsMapped) mem excluded
  replace mem := (report_only inert _).mem_rest rfl mem excluded
  replace mem := prepare_inert.sparesVmcs.start_owned.mem_rest prepares mem excluded
  replace mem := (report_only inert _).mem_rest rfl mem excluded
  replace mem := gets.mem_rest (Hardware.execute_get ..) mem excluded
  rw [Hardware.stepsOf_bind, Hardware.stepsOf_procedure] at mem
  rcases List.mem_append.1 mem with mem | mem
  · exact mem
  · split at mem
    · exact absurd ((launchGuest_only inert trivial).of_mem_steps mem) excluded
    · exact absurd mem List.not_mem_nil

/-- A successful virtualization writes VMCS fields in its bring-up, and at no other time. -/
theorem mem_bringUp_of_writes {record : Vcpu} {state : SimulatedProcessor}
    (off : vcpu.stage = .off) (supported : cpu.checkOutcome = .ok featureControl)
    (ran : hardware.execute vcpu cpu (bringUp featureControl) = ⟨.ok (), record, state⟩)
    {field : Vmcs.Field} {step : Operation × SimulatedProcessor} (writes : step.1.Writes field)
    (mem : step ∈ hardware.stepsOf vcpu cpu virtualize) :
    step ∈ hardware.stepsOf vcpu cpu (bringUp featureControl) := by
  have excluded := writes.not_sparesVmcs
  have gets : Program.Only Operation.SparesVmcs
      (Fallible.start (get : Fallible Vcpu Vcpu) vcpu) := trivial
  have reports := (report_inert (.virtualizingProcessor vcpu.index)).sparesVmcs.start_program vcpu
  have checks : hardware.execute vcpu cpu
      (liftM Support.check : Fallible Vcpu FeatureControlState)
        = ⟨.ok featureControl, vcpu, cpu⟩ := by
    rw [Hardware.execute_procedure, SimulatedProcessor.run_check, supported]
  unfold virtualize Script.virtualize at mem
  replace mem := gets.mem_rest (Hardware.execute_get ..) mem excluded
  rw [if_neg (not_not_intro off)] at mem
  replace mem := reports.mem_rest rfl mem excluded
  replace mem := (check_inert.sparesVmcs.start_procedure vcpu).mem_rest checks mem excluded
  rw [Hardware.stepsOf_tryCatch, ran, List.append_nil] at mem
  exact mem

/-! ## Two bring-ups side by side -/

/-- **The virtual processor is the same while the VMCS is filled.** -/
theorem filling_residue (vcpus : Residue vcpu vcpu') (cpus : cpu.Residue cpu') :
    vcpu'.filling cpu' = vcpu.filling cpu := by
  have filled : ∀ (vcpu : Vcpu) (cpu : SimulatedProcessor), vcpu.filling cpu
      = { index := vcpu.index
          address := vcpu.address
          stage := .vmcsLoaded
          savedCr0 := cpu.cr0
          savedCr4 := cpu.cr4
          memory := {
            base := vcpu.memory.base
            vcpuPointer := vcpu.address
            marker := stackMarker
            vmxon := ⟨stampedRevision cpu.revisionId⟩
            vmcs := ⟨stampedRevision cpu.revisionId, vcpu.memory.vmcs.abortIndicator⟩
            msrBitmap := vcpu.intercepts.apply .empty
            tss := .zero
            idt := .routing SimulatedProcessor.interruptEntryPoint
            gdt := HostGdt.forTask (vcpu.memory.base + 0x9000) }
          handlers := vcpu.handlers
          intercepts := vcpu.intercepts } := fun _ _ => rfl
  rw [filled, filled, vcpus.index, vcpus.address, vcpus.base, vcpus.abortIndicator,
    vcpus.handlers, vcpus.intercepts, cpus.cr0, cpus.cr4, cpus.revisionId]

/-- The processor differs in nothing but VMCS fields and events while the VMCS is filled. -/
theorem agree_fillingProcessor (cpus : cpu.Residue cpu')
    (offset : cpu'.physicalOffset = cpu.physicalOffset)
    (failure : cpu'.launchFailure = cpu.launchFailure)
    (msrs : cpu'.lockedMsrs featureControl' = cpu.lockedMsrs featureControl) :
    AgreeOutsideVmcs (fillingProcessor cpu featureControl vmxon vmcs)
      (fillingProcessor cpu' featureControl' vmxon' vmcs) := by
  rw [AgreeOutsideVmcs]
  simp only [fillingProcessor, SimulatedProcessor.withVmxEnabled, SimulatedProcessor.withVmxOn,
    SimulatedProcessor.withVmcsLoaded]
  rw [msrs, cpus.cpuid, cpus.adjustedCr0, cpus.cr3, cpus.adjustedCr4, cpus.rflags, cpus.selectors,
    offset, failure, cpus.launched]

/-- **The VMCS is filled with the same fields**, as far as they are written. -/
theorem FillsVmcs.agree (fills : FillsVmcs vcpu cpu featureControl vmxon vmcs fields)
    (fills' : FillsVmcs vcpu' cpu' featureControl' vmxon' vmcs' fields')
    (vcpus : Residue vcpu vcpu') (cpus : cpu.Residue cpu')
    (offset : cpu'.physicalOffset = cpu.physicalOffset)
    (failure : cpu'.launchFailure = cpu.launchFailure)
    (msrs : cpu'.lockedMsrs featureControl' = cpu.lockedMsrs featureControl) :
    AgreeOutsideVmcs (fillingProcessor cpu featureControl vmxon vmcs)
        (fillingProcessor cpu' featureControl' vmxon' vmcs') ∧
      ∀ field, (∃ step ∈ hardware.steps (Vmcs.populate (vcpu.filling cpu).memory).run
          (fillingProcessor cpu featureControl vmxon vmcs), step.1.Writes field) →
        fields' field = fields field := by
  have mapped := fills'.vmcsMapped
  rw [vcpus.vmcsAddress, SimulatedProcessor.physicalAddress_congr offset,
    fills.vmcsMapped] at mapped
  obtain rfl := Option.some.inj mapped
  have agree : AgreeOutsideVmcs (fillingProcessor cpu featureControl vmxon vmcs)
      (fillingProcessor cpu' featureControl' vmxon' vmcs) :=
    agree_fillingProcessor cpus offset failure msrs
  have populated := fills'.populated
  rw [filling_residue vcpus cpus] at populated
  refine ⟨agree, fun field written => ?_⟩
  obtain ⟨-, -, same⟩ := SimulatedProcessor.run_agree
    (Vmcs.populate_filling (vcpu.filling cpu).memory) agree rfl
  have equal := same field (.inl written)
  rw [populated, fills.populated] at equal
  exact equal

/-! ## Retrying -/

/-- Any number of failed attempts at a virtualization.  In front of each, the physical offset and
the launches that are made to fail may change, or be kept. -/
inductive FailedAttempts (vcpu : Vcpu) (cpu : SimulatedProcessor) :
    Vcpu → SimulatedProcessor → Prop
  | none : FailedAttempts vcpu cpu vcpu cpu
  | attempt {vcpu' : Vcpu} {cpu' : SimulatedProcessor} {offset : Word}
      {failure : Option (BitVec 32)} {error : Error}
      (before : FailedAttempts vcpu cpu vcpu' cpu')
      (fails : (hardware.execute vcpu' (cpu'.reconfigured offset failure) virtualize).outcome
        = .error error) :
      FailedAttempts vcpu cpu
        (hardware.execute vcpu' (cpu'.reconfigured offset failure) virtualize).record
        (hardware.execute vcpu' (cpu'.reconfigured offset failure) virtualize).state

/-- **Failed attempts leave no more than a residue.** -/
theorem FailedAttempts.residue (attempts : FailedAttempts vcpu cpu vcpu' cpu')
    (current : cpu.currentVmcs.isSome → cpu.vmxOperation = true) (off : vcpu.stage = .off) :
    Residue vcpu vcpu' ∧ cpu.Residue cpu' := by
  induction attempts with
  | none => exact ⟨.refl vcpu, .refl cpu⟩
  | @attempt vcpu' cpu' offset failure error before fails ih =>
      obtain ⟨vcpus, cpus⟩ := ih
      have cpus := cpus.trans (.reconfigured cpu' offset failure)
      have current : (cpu'.reconfigured offset failure).currentVmcs.isSome →
          (cpu'.reconfigured offset failure).vmxOperation = true := by
        rw [cpus.currentVmcs, cpus.vmxOperation]
        exact current
      obtain ⟨left, left'⟩ := residue_of_failure current (vcpus.stage.trans off) fails
      exact ⟨vcpus.trans left, cpus.trans left'⟩

/-- **Failed attempts have no influence on the next virtualization.**  With the same physical offset
and the same launches made to fail, it ends as it would have ended at first; and if it succeeds, the
virtual processor is the same, memory included, the processor differs in nothing but VMCS fields and
events, and every VMCS field that is written is the same. -/
theorem virtualize_after_failures (current : cpu.currentVmcs.isSome → cpu.vmxOperation = true)
    (off : vcpu.stage = .off) (attempts : FailedAttempts vcpu cpu vcpu' cpu') (offset : Word)
    (failure : Option (BitVec 32)) :
    let first := hardware.execute vcpu (cpu.reconfigured offset failure) virtualize
    let retried := hardware.execute vcpu' (cpu'.reconfigured offset failure) virtualize
    let steps := hardware.stepsOf vcpu (cpu.reconfigured offset failure) virtualize
    retried.outcome = first.outcome ∧
    (first.outcome = .ok () →
      retried.record = first.record ∧ AgreeOutsideVmcs first.state retried.state ∧
      ∀ field, (∃ step ∈ steps, step.1.Writes field) →
        retried.state.fields field = first.state.fields field) := by
  obtain ⟨vcpus, residue⟩ := attempts.residue current off
  have cpus := residue.configured offset failure
  have outcome := outcome_residue vcpus cpus rfl rfl
  refine ⟨outcome, fun succeeds => ?_⟩
  obtain ⟨featureControl, off, supported, ran⟩ := (virtualizeEnds _ _).of_ok succeeds
  obtain ⟨vmxon, vmcs, fields, fills, ended⟩ := (BringUpEnds.of_execute ran).of_ok succeeds
  obtain ⟨featureControl', -, supported', ran'⟩ :=
    (virtualizeEnds _ _).of_ok (outcome.trans succeeds)
  obtain ⟨vmxon', vmcs', fields', fills', ended'⟩ :=
    (BringUpEnds.of_execute ran').of_ok (outcome.trans succeeds)
  obtain ⟨featureControl'', supported'', msrs⟩ := cpus.supported supported
  obtain rfl := Except.ok.inj (supported'.symm.trans supported'')
  obtain ⟨agree, same⟩ := fills.agree fills' vcpus cpus rfl rfl msrs
  rw [ended] at ran
  rw [ended, ended']
  refine ⟨congrArg (atStage · .launched) (filling_residue vcpus cpus),
    agree.withLaunched fields fields', ?_⟩
  rintro field ⟨step, mem, writes⟩
  have filled := fills.of_writes writes (mem_bringUp_of_writes off supported ran writes mem)
  exact same field ⟨step, filled, writes⟩

/-- The launch of a processor after reset fails, then nothing is in the way. -/
theorem virtualize_after_failures_launch :
    let vcpu := fresh 0 0x1c000 0x10000 .empty {}
    let failed :=
      hardware.execute vcpu (SimulatedProcessor.reset.reconfigured 0 (some 7)) virtualize
    let retried := hardware.execute failed.record (failed.state.reconfigured 0 none) virtualize
    let first := hardware.execute vcpu (SimulatedProcessor.reset.reconfigured 0 none) virtualize
    failed.outcome = .error (.launchFailed .vmentryInvalidControlFields) ∧
      retried.outcome = .ok () ∧ retried.record = first.record ∧
      AgreeOutsideVmcs first.state retried.state := by
  have fails : (hardware.execute (fresh 0 0x1c000 0x10000 .empty {})
      (SimulatedProcessor.reset.reconfigured 0 (some 7)) virtualize).outcome
        = .error (.launchFailed .vmentryInvalidControlFields) := rfl
  have succeeds : (hardware.execute (fresh 0 0x1c000 0x10000 .empty {})
      (SimulatedProcessor.reset.reconfigured 0 none) virtualize).outcome = .ok () := rfl
  have current : SimulatedProcessor.reset.currentVmcs.isSome →
      SimulatedProcessor.reset.vmxOperation = true := nofun
  obtain ⟨outcome, agree⟩ :=
    virtualize_after_failures current rfl (FailedAttempts.none.attempt fails) 0 none
  obtain ⟨record, state, -⟩ := agree succeeds
  exact ⟨fails, outcome.trans succeeds, record, state⟩

end Vcpu

end VtxMonitor
