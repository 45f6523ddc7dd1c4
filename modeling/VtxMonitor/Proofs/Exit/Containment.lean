import VtxMonitor.Proofs.Exit.Incident

/-!
# Proofs/Exit/Containment — what a guest cannot change, whatever it does

A guest chooses the registers, the reasons and everything else that its exits leave behind, for
every exit anew, and handling an exit may fail.  Along every run **the host-state area, the controls
that decide when the guest exits, and the processor of the host stay as they are**
(`guest_contained`).
-/

namespace VtxMonitor

/-- The control fields that the default handlers write. -/
def emulatedControls : List Vmcs.Field :=
  [.primaryControls, .entryInterruption, .entryErrorCode, .entryInstructionLength, .cr0Shadow,
    .cr4Shadow]

/-- The host-state area, and the control fields that no default handler writes. -/
def Vmcs.Field.Guarded (field : Vmcs.Field) : Prop :=
  field.area = .host ∨ field.area = .control ∧ field ∉ emulatedControls

theorem Vmcs.Field.Guarded.ne_primary {field : Vmcs.Field} (guarded : field.Guarded) :
    field ≠ .primaryControls := by
  rintro rfl
  exact absurd guarded (by unfold Guarded; decide)

/-- The scope of a guest does not extend to guarded fields. -/
theorem Vmcs.Field.Guarded.free {field : Vmcs.Field} (guarded : field.Guarded)
    {msrs : Msr.Number → Prop} {use : WindowUse} : ¬(Scope.guest msrs use).fields field := by
  have emulated : ∀ field ∈ emulatedFields,
      field.area ≠ .host ∧ (field.area = .control → field ∈ emulatedControls) := by
    simp only [emulatedFields, emulatedControls, List.forall_mem_cons, List.not_mem_nil,
      false_imp_iff, implies_true]
    decide
  rintro (mem | isVolatile)
  · rcases guarded with host | ⟨control, free⟩
    · exact (emulated field mem).1 host
    · exact free ((emulated field mem).2 control)
  · have outside : field.area = .host ∨ field.area = .control := guarded.imp_right And.left
    rcases isVolatile with area | area <;> rw [area] at outside <;> exact absurd outside (by decide)

/-- **The guest is contained.**  Along every run of exits and host interrupts, whether they are
handled successfully or not: the host-state area and the control fields besides the emulated ones
keep their values; the primary control word changes at most in NMI-window exiting; the control
registers, the flags and the VMX state of the processor stay; only an exit of WRMSR changes an MSR,
and only the one it names; and no exit changes the placeholder of the stack pointer among the
registers of the guest. -/
theorem guest_contained (cpu : SimulatedProcessor) (incidents : List Incident) :
    let cpu' := cpu.afterAll incidents
    (∀ field : Vmcs.Field, field.area = .host → cpu'.fields field = cpu.fields field) ∧
    (∀ field : Vmcs.Field, field.area = .control → field ∉ emulatedControls →
      cpu'.fields field = cpu.fields field) ∧
    NmiWindow.others cpu'.primaryControls = NmiWindow.others cpu.primaryControls ∧
    (cpu'.cr0 = cpu.cr0 ∧ cpu'.cr3 = cpu.cr3 ∧ cpu'.cr4 = cpu.cr4 ∧ cpu'.rflags = cpu.rflags ∧
      cpu'.vmxOperation = cpu.vmxOperation ∧ cpu'.currentVmcs = cpu.currentVmcs ∧
      cpu'.launched = cpu.launched) ∧
    (∀ msr, cpu'.msrs msr ≠ cpu.msrs msr → ∃ vmExit, .exit vmExit ∈ incidents ∧
      vmExit.reason.basic = .wrmsr ∧ vmExit.registers.low .rcx = msr) ∧
    (∀ before vmExit after, incidents = before ++ .exit vmExit :: after →
      (vmExit.dispatched (cpu.afterAll before)).record.get .rsp = vmExit.registers.get .rsp) := by
  have confined := Incident.afterAll_confined incidents cpu
  refine ⟨fun field host => ?_, fun field control free => ?_, confined.others, ?_,
    fun msr changed => ?_, fun before vmExit _ _ => vmExit.dispatched_spares _⟩
  · have guarded : field.Guarded := .inl host
    exact confined.fields field guarded.free guarded.ne_primary
  · have guarded : field.Guarded := .inr ⟨control, free⟩
    exact confined.fields field guarded.free guarded.ne_primary
  · rw [confined.rest]
    exact ⟨rfl, rfl, rfl, rfl, rfl, rfl, rfl⟩
  · refine Classical.byContradiction fun nobody => changed (confined.msrs msr ?_)
    rintro ⟨incident, mem, writes⟩
    cases incident with
    | interrupt frame => exact writes
    | exit vmExit => exact nobody ⟨vmExit, mem, writes⟩

/-- The pin-based, secondary, exit and entry controls, the bitmaps, the masks, the CR3 targets and
the lists of MSRs to load and store are control fields that no default handler writes. -/
example : [Vmcs.Field.pinBasedControls, .secondaryControls, .exitControls, .entryControls,
      .msrBitmapAddress, .exceptionBitmap, .cr0Mask, .cr4Mask, .cr3TargetCount, .cr3Target0,
      .cr3Target1, .cr3Target2, .cr3Target3, .exitMsrStoreAddress, .exitMsrStoreCount,
      .exitMsrLoadAddress, .exitMsrLoadCount, .entryMsrLoadAddress, .entryMsrLoadCount].all
    fun field => field.area = .control ∧ field ∉ emulatedControls := by decide

end VtxMonitor
