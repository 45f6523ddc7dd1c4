import VtxMonitor.Proofs.Control.Writers
import VtxMonitor.Proofs.Machine.Invept

/-!
# Proofs/Control/Secondary — the secondary controls are touched whether they exist or not

A processor has secondary controls where the capabilities of its primary controls allow them, and
IA32_VMX_PROCBASED_CTLS2 is absent elsewhere.  Before INVEPT a machine takes that into account;
writing the control fields does not.  **The capability MSR of the secondary controls is read and
their field is written as soon as the two words before are written**
(`writeControlFields_touches_secondary`), whatever the primary controls allow.
-/

namespace VtxMonitor

open Vmcs (writeControlFields writeControlWords)

variable {σ α β : Type} {hw : Hardware σ}

/-! ## Requests behind a part -/

/-- **What only the rest of a sequence requests is requested exactly if the rest is reached.** -/
theorem Hardware.requested_iff_reached {P : Operation → Prop} {first : Procedure α}
    {next : α → Procedure β} (spares : first.run.Only fun op => ¬P op)
    (asks : ∀ value s, ∃ step ∈ hw.steps (next value).run s, P step.1) (s : σ) :
    (∃ step ∈ hw.steps (first >>= next).run s, P step.1) ↔
      ∃ value, (hw.run first.run s).1 = .ok value := by
  rw [steps_procedure_bind]
  constructor
  · rintro ⟨step, mem, requested⟩
    rcases List.mem_append.1 mem with mem | mem
    · exact absurd requested (spares.of_mem_steps mem)
    · rcases ran : hw.run first.run s with ⟨error | value, s'⟩
      · rw [ran] at mem
        exact absurd mem List.not_mem_nil
      · exact ⟨value, rfl⟩
  · rintro ⟨value, returned⟩
    rcases ran : hw.run first.run s with ⟨error | value', s'⟩
    · rw [ran] at returned
      exact nomatch returned
    · obtain ⟨step, mem, requested⟩ := asks value' s'
      exact ⟨step, List.mem_append_right _ mem, requested⟩

/-- What the first part of a sequence requests is requested by the sequence. -/
theorem Hardware.requested_first {P : Operation → Prop} {first : Procedure α}
    {next : α → Procedure β} {s : σ} (requested : ∃ step ∈ hw.steps first.run s, P step.1) :
    ∃ step ∈ hw.steps (first >>= next).run s, P step.1 := by
  obtain ⟨step, mem, holds⟩ := requested
  exact ⟨step, by rw [steps_procedure_bind]; exact List.mem_append_left _ mem, holds⟩

namespace Vmcs

theorem writeControlWords_append (before after : List VmxControl) :
    writeControlWords (before ++ after)
      = writeControlWords before >>= fun _ => writeControlWords after := by
  induction before with
  | nil => rfl
  | cons control before ih =>
      rw [List.cons_append, writeControlWords, ih, writeControlWords, bind_assoc]

end Vmcs

namespace VmxControl

/-- Writing a control word reads its capability MSR. -/
theorem writeAdjusted_reads (control : VmxControl) (requested : BitVec 32) (s : σ) :
    ∃ step ∈ hw.steps (control.writeAdjusted requested).run s, ∃ trueControls,
      step.1 = .readMsr (control.capabilityMsr trueControls) :=
  ⟨_, List.mem_cons_of_mem _ List.mem_cons_self, _, rfl⟩

/-- Writing a control word writes its field. -/
theorem writeAdjusted_writes (control : VmxControl) (requested : BitVec 32) (s : σ) :
    ∃ step ∈ hw.steps (control.writeAdjusted requested).run s, step.1.Writes control.field := by
  rw [writeAdjusted, Hardware.steps_procedure_program, Hardware.steps_procedure_program]
  exact ⟨_, List.mem_append_right _ <| List.mem_append_right _ <|
    List.mem_cons_of_mem _ List.mem_cons_self, rfl⟩

end VmxControl

/-! ## The secondary controls -/

/-- Whether the primary controls that are in force allow secondary controls. -/
def Hardware.allowsSecondary (hw : Hardware σ) (s : σ) : Bool :=
  (hw.allowedSettings s .primary).allowed1.getLsbD 31

/-- Whether writing the control fields reads the capabilities of the secondary controls. -/
def Hardware.ReadsSecondary (hw : Hardware σ) (memory : VcpuMemory) (s : σ) : Prop :=
  ∃ step ∈ hw.steps (writeControlFields memory).run s, step.1 = .readMsr Msr.procBasedCtls2

/-- Whether writing the control fields writes the secondary controls. -/
def Hardware.WritesSecondary (hw : Hardware σ) (memory : VcpuMemory) (s : σ) : Prop :=
  ∃ step ∈ hw.steps (writeControlFields memory).run s, step.1.Writes .secondaryControls

/-- What is written before the secondary controls. -/
def writePrimary : Procedure Unit := writeControlWords [.pinBased, .primary]

/-- Writing the control fields starts with the words before the secondary one, and goes on with
that. -/
theorem writeControlFields_eq (memory : VcpuMemory) :
    ∃ rest : BitVec 32 → Procedure Unit, writeControlFields memory = writePrimary >>= fun _ =>
      VmxControl.secondary.writeAdjusted (Vmcs.requestedControls .secondary) >>= rest := by
  have order : writeControlWords Vmcs.controlOrder = writePrimary >>= fun _ =>
      VmxControl.secondary.writeAdjusted (Vmcs.requestedControls .secondary) >>= fun _ =>
        writeControlWords [.exit, .entry] :=
    Vmcs.writeControlWords_append [.pinBased, .primary] [.secondary, .exit, .entry]
  exact ⟨_, by rw [writeControlFields, order, bind_assoc]; simp only [bind_assoc]; rfl⟩

/-- What writing the secondary controls requests, and writing the primary ones does not, is
requested as soon as these are written. -/
theorem requested_iff_writePrimary {P : Operation → Prop}
    (reports : ∀ diagnostic, ¬P (.report diagnostic)) (basic : ¬P (.readMsr Msr.vmxBasic))
    (capability : ∀ control ∈ [VmxControl.pinBased, .primary], ∀ trueControls,
      ¬P (.readMsr (control.capabilityMsr trueControls)))
    (writes : ∀ control ∈ [VmxControl.pinBased, .primary], ∀ content,
      ¬P (.vmwrite control.field content))
    (asks : ∀ s, ∃ step ∈ hw.steps
      (VmxControl.secondary.writeAdjusted (Vmcs.requestedControls .secondary)).run s, P step.1)
    (memory : VcpuMemory) (s : σ) :
    (∃ step ∈ hw.steps (writeControlFields memory).run s, P step.1) ↔
      (hw.run writePrimary.run s).1 = .ok () := by
  have spares : writePrimary.run.Only fun op => ¬P op :=
    Vmcs.writeControlWords_only reports basic capability writes
  obtain ⟨rest, eq⟩ := writeControlFields_eq memory
  rw [eq, Hardware.requested_iff_reached spares fun _ s => Hardware.requested_first (asks s)]
  exact ⟨fun ⟨(), returned⟩ => returned, fun returned => ⟨(), returned⟩⟩

/-- **The capabilities of the secondary controls are read as soon as the primary controls are
written.** -/
theorem readsSecondary_iff (memory : VcpuMemory) (s : σ) :
    hw.ReadsSecondary memory s ↔ (hw.run writePrimary.run s).1 = .ok () := by
  have other : ∀ {msr}, msr ≠ Msr.procBasedCtls2 →
      ¬Operation.readMsr msr = .readMsr Msr.procBasedCtls2 :=
    fun differs same => differs (Operation.readMsr.inj same)
  have capability : ∀ control ∈ [VmxControl.pinBased, .primary], ∀ trueControls,
      control.capabilityMsr trueControls ≠ Msr.procBasedCtls2 := by decide
  refine @requested_iff_writePrimary σ hw (· = .readMsr Msr.procBasedCtls2) (fun _ => nofun)
    (other (by decide)) (fun control mem _ => other (capability control mem _))
    (fun _ _ _ => nofun) (fun s => ?_) memory s
  obtain ⟨step, mem, _, reads⟩ := VmxControl.writeAdjusted_reads .secondary _ s
  exact ⟨step, mem, reads⟩

/-- **The secondary controls are written as soon as the primary controls are.** -/
theorem writesSecondary_iff (memory : VcpuMemory) (s : σ) :
    hw.WritesSecondary memory s ↔ (hw.run writePrimary.run s).1 = .ok () := by
  have other : ∀ control ∈ [VmxControl.pinBased, .primary],
      control.field ≠ .secondaryControls := by decide
  exact @requested_iff_writePrimary σ hw (·.Writes .secondaryControls) (fun _ => id) id
    (fun _ _ _ => id) (fun control mem _ => other control mem)
    (VmxControl.writeAdjusted_writes .secondary _) memory s

/-! ## The result -/

/-- On a processor with a current VMCS the words before the secondary one are written. -/
theorem VmcsFrame.writePrimary_succeeds (frame : VmcsFrame hw) {s : σ} (holds : frame.Holds s) :
    (hw.run writePrimary.run s).1 = .ok () :=
  (Vmcs.writeControlWords_leads _ s (frame.shows_self holds)).1

theorem SimulatedProcessor.writePrimary_succeeds_iff (cpu : SimulatedProcessor) :
    (hardware.run writePrimary.run cpu).1 = .ok () ↔ cpu.currentVmcs.isSome := by
  cases current : cpu.currentVmcs with
  | some vmcs =>
      have isSome : cpu.currentVmcs.isSome := Option.isSome_iff_exists.2 ⟨vmcs, current⟩
      exact iff_of_true (cpu.vmcsFrame.writePrimary_succeeds ⟨isSome, rfl⟩) rfl
  | none =>
      have refused : ∀ value : Word, (hardware.run (Vmcs.write .pinBasedControls value).run cpu).1
          = .error (.vmcsAccess .pinBasedControls .invalid) := fun value => by
        change (cpu.vmwrite .pinBasedControls value).1.mapError _ = _
        rw [vmwrite, current]
        rfl
      have first : (hardware.run (VmxControl.pinBased.writeAdjusted
          (Vmcs.requestedControls .pinBased)).run cpu).1
            = .error (.vmcsAccess .pinBasedControls .invalid) := by
        rw [Hardware.run_writeAdjusted (fun _ _ => rfl)]
        exact congrArg (Except.map _) (refused _)
      refine iff_of_false (fun returned => ?_) Bool.false_ne_true
      rw [writePrimary, writeControlWords,
        Hardware.run_procedure_error hardware (Prod.ext first rfl)] at returned
      exact nomatch returned

/-- **Writing the control fields touches the secondary controls**, whatever the capabilities of the
primary controls allow: it reads their capability MSR and writes their field as soon as the words
before are written.  On the simulated processor that takes a current VMCS and nothing else, and on a
machine nothing at all. -/
theorem writeControlFields_touches_secondary (memory : VcpuMemory) :
    (∀ {σ : Type} (hw : Hardware σ) (s : σ),
      (hw.ReadsSecondary memory s ↔ (hw.run writePrimary.run s).1 = .ok ()) ∧
      (hw.WritesSecondary memory s ↔ (hw.run writePrimary.run s).1 = .ok ())) ∧
    (∀ cpu : SimulatedProcessor,
      (SimulatedProcessor.hardware.ReadsSecondary memory cpu ↔ cpu.currentVmcs.isSome) ∧
      (SimulatedProcessor.hardware.WritesSecondary memory cpu ↔ cpu.currentVmcs.isSome)) ∧
    ∀ m : Machine,
      Machine.hardware.ReadsSecondary memory m ∧ Machine.hardware.WritesSecondary memory m := by
  refine ⟨fun hw s => ⟨readsSecondary_iff memory s, writesSecondary_iff memory s⟩, fun cpu => ?_,
    fun m => ?_⟩
  · rw [readsSecondary_iff, writesSecondary_iff, cpu.writePrimary_succeeds_iff]
    exact ⟨.rfl, .rfl⟩
  · rw [readsSecondary_iff, writesSecondary_iff]
    have succeeds := m.vmcsFrame.writePrimary_succeeds rfl
    exact ⟨succeeds, succeeds⟩

/-- A machine without secondary controls: all of its primary controls but these are allowed. -/
def primaryOnly : Machine where
  msrs msr :=
    if msr = Msr.pinBasedCtls then 0x7f00000016
    else if msr = Msr.procBasedCtls then 0x7ff9fffe0401e172
    else if msr = Msr.exitCtls then 0x1ffffff00036dff
    else if msr = Msr.entryCtls then 0x3ffff000011ff else 0
  addressMap := some Machine.nextPage

/-- The machine without secondary controls executes both accesses, while it invalidates cached
mappings without reading what it does not have. -/
theorem writeControlFields_touches_absent_secondary :
    Machine.hardware.allowsSecondary primaryOnly = false ∧
    .rdmsr Msr.procBasedCtls2 ∉ primaryOnly.inveptTrace ∧
    let executed := (Machine.hardware.run (writeControlFields (.fresh 0x2a5bc3700000)).run
      primaryOnly).2.executed
    .rdmsr Msr.procBasedCtls2 ∈ executed ∧ .vmwrite .secondaryControls (.word 0) ∈ executed := by
  refine ⟨by decide, by decide, ?_, ?_⟩ <;> decide +kernel

end VtxMonitor
