import VtxMonitor.Proofs.Vcpu.StageMarker

/-!
# Proofs/Vcpu/EventOrder — the order of privileged operations in a virtualization

A virtualization records a beginning of one fixed schedule, and if it fails, the undo of exactly
what it had committed, in reverse order (`events_virtualize`).  Between any two requests
of it, **a processor in VMX operation has CR4.VMXE set** (`vmxeHeld_steps`).
-/

namespace VtxMonitor

open SimulatedProcessor (hardware)

namespace SimulatedProcessor

/-! ## CR4.VMXE in VMX operation -/

/-- In VMX operation CR4.VMXE is set. -/
def VmxeHeld (cpu : SimulatedProcessor) : Prop :=
  cpu.vmxOperation = true → cpu.cr4 &&& cr4Vmxe ≠ 0

/-- VMXON needs CR4.VMXE. -/
theorem vmxeHeld_vmxon {cpu : SimulatedProcessor} (held : cpu.VmxeHeld) (address : Word) :
    (cpu.vmxon address).2.VmxeHeld := by
  simp only [vmxon]
  split
  · exact held
  · next accepted =>
      intro _ cleared
      exact accepted (by simp [record, show cpu.cr4 &&& cr4Vmxe = 0 from cleared])

/-- **One request keeps CR4.VMXE set in VMX operation**, if it writes no control register there. -/
theorem vmxeHeld_answer {op : Operation} {cpu : SimulatedProcessor} (held : cpu.VmxeHeld)
    (outside : ∀ register value, op = .writeCr register value → cpu.vmxOperation = false) :
    (answer op cpu).2.VmxeHeld := by
  cases op with
  | vmxon address => exact vmxeHeld_vmxon held address
  | writeCr register value =>
      intro on
      have off := outside register value rfl
      cases register <;> exact absurd (off.symm.trans on) (by decide)
  | vmxoff =>
      simp only [answer, vmxoff]
      split
      · exact fun on => absurd on Bool.false_ne_true
      · exact held
  | vmclear address =>
      simp only [answer, vmclear]
      split
      · dsimp only
        split <;> exact held
      · exact held
  | vmptrld address | inveptAll | vmwrite field content =>
      simp only [answer, vmptrld, inveptAll, vmwrite]
      split <;> exact held
  | vmlaunch =>
      simp only [answer, vmlaunch]
      split
      · exact held
      · split <;> exact held
  | _ => exact held

/-- **A run keeps CR4.VMXE set in VMX operation**, before and after each of its requests. -/
theorem vmxeHeld_steps {α : Type} {program : Program α} {cpu : SimulatedProcessor}
    (held : cpu.VmxeHeld) (masked : CrWritesMasked false (hardware.steps program cpu)) :
    ∀ step ∈ hardware.steps program cpu,
      step.2.VmxeHeld ∧ (hardware.answer step.1 step.2).2.VmxeHeld := by
  induction program generalizing cpu with
  | done value => exact fun _ mem => absurd mem List.not_mem_nil
  | perform op next ih =>
      have after : (hardware.answer op cpu).2.VmxeHeld := vmxeHeld_answer held
        fun register value write => (masked _ List.mem_cons_self register value write).2
      intro step mem
      rcases List.mem_cons.1 mem with rfl | mem
      · exact ⟨held, after⟩
      · exact ih _ after (fun step mem => masked step (List.mem_cons_of_mem _ mem)) step mem

/-! ## The schedule -/

/-- The events of adjusting the control registers. -/
def adjustingEvents (cpu : SimulatedProcessor) : List Event :=
  [.disableInterrupts] ++
    (if FeatureControl.locked.isSetIn (cpu.msrs Msr.featureControl) then []
    else
      [.writeMsr Msr.featureControl (cpu.msrs Msr.featureControl |||
        (FeatureControl.locked.mask ||| FeatureControl.vmxOutsideSmx.mask))]) ++
    [.writeCr .cr0 cpu.adjustedCr0, .writeCr .cr4 cpu.adjustedCr4, .enableInterrupts]

theorem adjustingEvents_eq {cpu : SimulatedProcessor} {featureControl : FeatureControlState}
    (supported : cpu.checkOutcome = .ok featureControl) :
    cpu.adjustingEvents = cpu.enableEvents featureControl := by
  rw [adjustingEvents, isSetIn_locked supported, ← Vcpu.lockedFeatureControl_eq]
  cases featureControl <;> rfl

end SimulatedProcessor

namespace Vcpu

/-- The events behind the control registers, up to the launch. -/
def launchingEvents (vcpu : Vcpu) (cpu : SimulatedProcessor) : List Event :=
  let vmxon := vcpu.memory.vmxonAddress + cpu.physicalOffset
  let vmcs := vcpu.memory.vmcsAddress + cpu.physicalOffset
  [.vmxon vmxon, .inveptAllContexts, .vmclear vmcs, .vmptrld vmcs, .vmlaunch]

/-- The events of a virtualization that nothing stops. -/
def schedule (vcpu : Vcpu) (cpu : SimulatedProcessor) : List Event :=
  cpu.adjustingEvents ++ vcpu.launchingEvents cpu

/-- The undo of what was committed, in reverse order. -/
def undoing (vcpu : Vcpu) (cpu : SimulatedProcessor) (adjusted entered loaded : Bool) :
    List Event :=
  (if loaded then [.vmclear (vcpu.memory.vmcsAddress + cpu.physicalOffset)] else []) ++
    (if entered then [.vmxoff] else []) ++
    (if adjusted then
      [.disableInterrupts, .writeCr .cr4 cpu.cr4, .writeCr .cr0 cpu.cr0, .enableInterrupts]
    else [])

variable {vcpu : Vcpu} {cpu : SimulatedProcessor} {featureControl : FeatureControlState}

/-- A successful bring-up records the whole schedule. -/
theorem BringUpEnds.events_of_ok {execution : Execution Vcpu SimulatedProcessor Unit}
    (ends : BringUpEnds vcpu cpu featureControl execution)
    (supported : cpu.checkOutcome = .ok featureControl) (succeeds : execution.outcome = .ok ()) :
    execution.state.events = cpu.events ++ schedule vcpu cpu := by
  obtain ⟨vmxon, vmcs, fields, fills, rfl⟩ := ends.of_ok succeeds
  obtain ⟨-, rfl⟩ := SimulatedProcessor.physicalAddress_eq_some.1 fills.mapped
  obtain ⟨-, rfl⟩ := SimulatedProcessor.physicalAddress_eq_some.1 fills.vmcsMapped
  rw [schedule, SimulatedProcessor.adjustingEvents_eq supported, launchingEvents]
  simp [fillingProcessor, SimulatedProcessor.withVmxEnabled, SimulatedProcessor.withVmxOn,
    SimulatedProcessor.withVmcsLoaded, SimulatedProcessor.withFields,
    SimulatedProcessor.withLaunched]

/-- What is undone before the VMCS is loaded. -/
theorem undoEvents_of_not_loaded {record : Vcpu} {state : SimulatedProcessor}
    (adjusted : record.stage.reached .vmxEnabled = true)
    (notLoaded : record.stage.reached .vmcsLoaded = false)
    (cr0 : record.savedCr0 = cpu.cr0) (cr4 : record.savedCr4 = cpu.cr4) :
    record.undoEvents state = undoing vcpu cpu true (record.stage.reached .vmxOn)
      (record.stage.reached .vmcsLoaded) := by
  simp [undoEvents, undoing, adjusted, notLoaded, cr0, cr4]

/-- What is undone once the VMCS is loaded. -/
theorem undoEvents_filling {state : SimulatedProcessor} {vmxon vmcs : Word}
    {fields : Vmcs.Field → Option Word}
    (fills : FillsVmcs vcpu cpu featureControl vmxon vmcs fields)
    (offset : state.physicalOffset = cpu.physicalOffset) :
    (vcpu.filling cpu).undoEvents state = undoing vcpu cpu true true true := by
  have memory : (vcpu.filling cpu).memory.vmcsAddress = vcpu.memory.vmcsAddress := by
    rw [VcpuMemory.vmcsAddress, VcpuMemory.vmcsAddress]
    rfl
  obtain ⟨-, rfl⟩ := SimulatedProcessor.physicalAddress_eq_some.1 fills.vmcsMapped
  rw [undoEvents, memory, SimulatedProcessor.physicalAddress_congr offset, fills.vmcsMapped]
  rfl

/-- A failed bring-up records the adjustment of the control registers and a beginning of the rest
of the schedule, and its stage tells what has to be undone. -/
theorem BringUpEnds.events_of_error {error : Error} {record : Vcpu} {state : SimulatedProcessor}
    (fails : BringUpEnds vcpu cpu featureControl ⟨.error error, record, state⟩) :
    ∃ launching, launching <+: vcpu.launchingEvents cpu ∧
      state.events = cpu.events ++ cpu.enableEvents featureControl ++ launching ∧
      record.undoEvents state = undoing vcpu cpu true (record.stage.reached .vmxOn)
        (record.stage.reached .vmcsLoaded) := by
  cases fails with
  | unusableVmxon => exact ⟨[], List.nil_prefix, (List.append_nil _).symm,
      undoEvents_of_not_loaded rfl rfl rfl rfl⟩
  | refusedVmxon usable =>
      obtain ⟨mapped, -⟩ := SimulatedProcessor.pageAddress_eq_ok.1 usable
      obtain ⟨-, rfl⟩ := SimulatedProcessor.physicalAddress_eq_some.1 mapped
      exact ⟨[.vmxon _], ⟨_, rfl⟩, rfl, undoEvents_of_not_loaded rfl rfl rfl rfl⟩
  | unmappedVmcs enters =>
      obtain ⟨-, rfl⟩ := SimulatedProcessor.physicalAddress_eq_some.1 enters.mapped
      exact ⟨[.vmxon _, .inveptAllContexts], ⟨_, rfl⟩, rfl,
        undoEvents_of_not_loaded rfl rfl rfl rfl⟩
  | unmappedBitmap fills =>
      obtain ⟨-, rfl⟩ := SimulatedProcessor.physicalAddress_eq_some.1 fills.mapped
      obtain ⟨-, rfl⟩ := SimulatedProcessor.physicalAddress_eq_some.1 fills.vmcsMapped
      refine ⟨[.vmxon _, .inveptAllContexts, .vmclear _, .vmptrld _], ⟨_, rfl⟩, ?_,
        undoEvents_filling fills rfl⟩
      simp [fillingProcessor, SimulatedProcessor.withVmxEnabled, SimulatedProcessor.withVmxOn,
        SimulatedProcessor.withVmcsLoaded, SimulatedProcessor.withFields]
  | failedLaunch fills =>
      obtain ⟨-, rfl⟩ := SimulatedProcessor.physicalAddress_eq_some.1 fills.mapped
      obtain ⟨-, rfl⟩ := SimulatedProcessor.physicalAddress_eq_some.1 fills.vmcsMapped
      refine ⟨_, List.prefix_refl _, ?_, undoEvents_filling fills rfl⟩
      simp [launchingEvents, fillingProcessor, SimulatedProcessor.withVmxEnabled,
        SimulatedProcessor.withVmxOn, SimulatedProcessor.withVmcsLoaded,
        SimulatedProcessor.withFields, SimulatedProcessor.withFailedLaunch]

/-! ## Every virtualization keeps to the schedule -/

/-- The events of a virtualization, and how its furthest stage tells the undo. -/
theorem events_virtualize (off : vcpu.stage = .off) :
    let execution := hardware.execute vcpu cpu virtualize
    ∃ committed undo, execution.state.events = cpu.events ++ committed ++ undo ∧
      committed <+: schedule vcpu cpu ∧
      (committed = [] ∨ cpu.adjustingEvents <+: committed) ∧
      (execution.outcome = .ok () → committed = schedule vcpu cpu ∧ undo = []) ∧
      ∀ error, execution.outcome = .error error →
        undo = undoing vcpu cpu (Event.writeCr .cr4 cpu.adjustedCr4 ∈ committed)
          ((vcpu.furthestStage cpu).reached .vmxOn)
          ((vcpu.furthestStage cpu).reached .vmcsLoaded) := by
  intro execution
  cases outcome : execution.outcome with
  | ok value =>
      obtain ⟨featureControl, -, supported, ran⟩ := (virtualizeEnds vcpu cpu).of_ok outcome
      refine ⟨schedule vcpu cpu, [], ?_, List.prefix_refl _, .inr (List.prefix_append _ _),
        fun _ => ⟨rfl, rfl⟩, nofun⟩
      rw [List.append_nil]
      exact (BringUpEnds.of_execute ran).events_of_ok supported outcome
  | error error =>
      obtain ⟨unsupported, unchanged⟩ | ⟨featureControl, record, state, supported, ran, undone⟩ :=
        (virtualizeEnds vcpu cpu).of_error off outcome
      · have furthest : vcpu.furthestStage cpu = .off := by rw [furthestStage, unsupported]
        refine ⟨[], [], ?_, List.nil_prefix, .inl rfl, nofun, fun _ _ => ?_⟩
        · rw [List.append_nil, List.append_nil]
          exact congrArg (·.state.events) unchanged
        · rw [furthest]
          rfl
      · have furthest : vcpu.furthestStage cpu = record.stage := by
          rw [furthestStage, supported]
          exact congrArg (·.record.stage) ran
        obtain ⟨launching, first, events, undo⟩ := (BringUpEnds.of_execute ran).events_of_error
        rw [← SimulatedProcessor.adjustingEvents_eq supported] at events
        refine ⟨cpu.adjustingEvents ++ launching, record.undoEvents state, ?_,
          (List.prefix_append_right_inj _).2 first, .inr (List.prefix_append _ _), nofun,
          fun _ _ => ?_⟩
        · rw [← List.append_assoc, ← events]
          exact congrArg (·.state.events) undone
        · have adjusted : Event.writeCr .cr4 cpu.adjustedCr4
              ∈ cpu.adjustingEvents ++ launching := by
            simp [SimulatedProcessor.adjustingEvents]
          rw [undo, furthest, decide_eq_true adjusted]

/-- **The privileged operations of a virtualization come in order.**  Its events are a beginning of
the schedule, either empty or with the control registers adjusted, followed on failure by the undo
of what was committed.  Control registers are only written with interrupts disabled, and outside of
VMX operation at first, CR4.VMXE is set whenever the processor is in VMX operation. -/
theorem virtualize_ordered {vcpu : Vcpu} {cpu : SimulatedProcessor} (off : vcpu.stage = .off) :
    let execution := hardware.execute vcpu cpu virtualize
    let steps := hardware.stepsOf vcpu cpu virtualize
    (∃ committed undo, execution.state.events = cpu.events ++ committed ++ undo ∧
      committed <+: schedule vcpu cpu ∧
      (committed = [] ∨ cpu.adjustingEvents <+: committed) ∧
      (execution.outcome = .ok () → committed = schedule vcpu cpu ∧ undo = []) ∧
      ∀ error, execution.outcome = .error error →
        undo = undoing vcpu cpu (Event.writeCr .cr4 cpu.adjustedCr4 ∈ committed)
          (vmxonSucceeded steps) (vmptrldSucceeded steps)) ∧
    (∀ step ∈ steps, ∀ register value, step.1 = .writeCr register value →
      step.2.interruptsEnabled = false) ∧
    (cpu.vmxOperation = false → ∀ step ∈ steps,
      step.2.VmxeHeld ∧ (hardware.answer step.1 step.2).2.VmxeHeld) := by
  intro execution steps
  have truthful : Truthful cpu.vmxOperation .off (vcpu.furthestStage cpu) steps :=
    virtualize_truthful off
  have entered : vmxonSucceeded steps = (vcpu.furthestStage cpu).reached .vmxOn := by
    rw [truthful.entered]
    exact Bool.and_true _
  have loaded : vmptrldSucceeded steps = (vcpu.furthestStage cpu).reached .vmcsLoaded := by
    rw [truthful.loaded]
    exact Bool.and_true _
  refine ⟨?_, fun step mem register value write => (truthful.masked step mem _ _ write).1, ?_⟩
  · rw [entered, loaded]
    exact events_virtualize off
  · intro outside
    have held : cpu.VmxeHeld := fun on => absurd (outside.symm.trans on) (by decide)
    exact SimulatedProcessor.vmxeHeld_steps held (outside ▸ truthful.masked)

/-- When the launch of a processor after reset fails, everything is undone. -/
theorem virtualize_ordered_failedLaunch :
    let cpu := { SimulatedProcessor.reset with launchFailure := some 7 }
    let vcpu := fresh 0 0x1c000 0x10000 .empty {}
    vcpu.stage = .off ∧ ∃ committed undo,
      (hardware.execute vcpu cpu virtualize).state.events = committed ++ undo ∧
      committed <+: schedule vcpu cpu ∧
      undo = undoing vcpu cpu (Event.writeCr .cr4 cpu.adjustedCr4 ∈ committed) true true := by
  have fails : (hardware.execute (fresh 0 0x1c000 0x10000 .empty {})
      { SimulatedProcessor.reset with launchFailure := some 7 } virtualize).outcome
        = .error (.launchFailed .vmentryInvalidControlFields) := rfl
  obtain ⟨⟨committed, undo, events, first, -, -, undone⟩, -⟩ := @virtualize_ordered
    (fresh 0 0x1c000 0x10000 .empty {})
    { SimulatedProcessor.reset with launchFailure := some 7 } rfl
  exact ⟨rfl, committed, undo, events, first, undone _ fails⟩

end Vcpu

end VtxMonitor
