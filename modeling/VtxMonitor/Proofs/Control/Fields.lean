import VtxMonitor.Proofs.Processor.VmcsFrame
import VtxMonitor.Vmcs.Population

/-!
# Proofs/Control/Fields — the control fields honour the capabilities

Writing the control fields stores adjusted words, the address of the MSR bitmap and zeros
(`writeControlFields_leads`), and writes no field besides (`writeControlFields_fills`).  Where the
capabilities are consistent, **each control word honours the capability in force and no field
outside of the control area changes** (`writeControlFields_honours`).
-/

namespace VtxMonitor

open Vmcs (Field)

/-! ## What the control fields become -/

namespace Vmcs

/-- The word that is stored for a control under given settings. -/
def adjustedWord (settings : VmxControl → AllowedSettings) (control : VmxControl) : BitVec 32 :=
  (settings control).adjust (requestedControls control)

/-- What is stored in the control words, in order. -/
def controlWordValues (settings : VmxControl → AllowedSettings) (controls : List VmxControl) :
    List (Field × Word) :=
  controls.map fun control => (control.field, (adjustedWord settings control).setWidth 64)

/-- Everything that is stored in the control fields, in order. -/
def controlValues (settings : VmxControl → AllowedSettings) (bitmap : Word) : List (Field × Word) :=
  controlWordValues settings controlOrder ++ (zeroedBeforeBitmap.map (·, 0) ++
    (.msrBitmapAddress, bitmap) :: zeroedAfterBitmap.map (·, 0))

/-- The control fields that are written, in order. -/
def controlFields : List Field :=
  controlOrder.map VmxControl.field ++ (zeroedBeforeBitmap ++
    Field.msrBitmapAddress :: zeroedAfterBitmap)

theorem map_fst_controlValues (settings : VmxControl → AllowedSettings) (bitmap : Word) :
    (controlValues settings bitmap).map Prod.fst = controlFields := rfl

/-- No control field is stored in twice. -/
theorem controlFields_nodup : controlFields.Nodup := by decide +kernel

/-- Everything that is written lies in the control area. -/
theorem area_of_mem_controlFields {field : Field} (mem : field ∈ controlFields) :
    field.area = .control := by
  have inside : (controlFields.all fun field => field.area = .control) = true := by
    decide +kernel
  exact of_decide_eq_true (List.all_eq_true.1 inside field mem)

theorem mem_controlOrder (control : VmxControl) : control ∈ controlOrder := by
  cases control <;> decide

theorem field_mem_controlFields (control : VmxControl) : control.field ∈ controlFields :=
  List.mem_append_left _ (List.mem_map_of_mem (mem_controlOrder control))

/-- **Every stored value counts.** -/
theorem updateAll_controlValues {words : Field → Word} {settings : VmxControl → AllowedSettings}
    {bitmap : Word} {field : Field} {value : Word}
    (mem : (field, value) ∈ controlValues settings bitmap) :
    updateAll words (controlValues settings bitmap) field = value := by
  refine updateAll_of_mem words ?_ mem
  rw [map_fst_controlValues]
  exact controlFields_nodup

theorem adjustedWord_mem_controlValues (settings : VmxControl → AllowedSettings) (bitmap : Word)
    (control : VmxControl) :
    (control.field, (adjustedWord settings control).setWidth 64) ∈ controlValues settings bitmap :=
  List.mem_append_left _ (List.mem_map_of_mem (mem_controlOrder control))

theorem bitmap_mem_controlValues (settings : VmxControl → AllowedSettings) (bitmap : Word) :
    (.msrBitmapAddress, bitmap) ∈ controlValues settings bitmap :=
  List.mem_append_right _ (List.mem_append_right _ List.mem_cons_self)

theorem zero_mem_controlValues (settings : VmxControl → AllowedSettings) (bitmap : Word)
    {field : Field} (zeroed : field ∈ zeroedBeforeBitmap ∨ field ∈ zeroedAfterBitmap) :
    (field, 0) ∈ controlValues settings bitmap := by
  rw [controlValues, List.mem_append, List.mem_append, List.mem_cons]
  rcases zeroed with before | after
  · exact .inr (.inl (List.mem_map_of_mem before))
  · exact .inr (.inr (.inr (List.mem_map_of_mem after)))

end Vmcs

/-! ## Writing the control fields -/

section Writing

variable {σ : Type} {hw : Hardware σ} {frame : VmcsFrame hw} {rest : σ} {words : Field → Word}

/-- What a processor allows does not depend on the fields of the VMCS. -/
theorem VmcsFrame.allowedSettings_rest (frame : VmcsFrame hw) {s : σ} (holds : frame.Holds s)
    (control : VmxControl) :
    hw.allowedSettings (frame.rest s) control = hw.allowedSettings s control := by
  have msr : ∀ number, hw.msr (frame.rest s) number = hw.msr s number := fun number =>
    (frame.inspected (.readMsr number) s trivial holds).symm
  have capability : hw.capability (frame.rest s) control = hw.capability s control := by
    cases control <;> simp only [Hardware.capability, Hardware.msrInForce, msr]
  rw [Hardware.allowedSettings, Hardware.allowedSettings, capability]

theorem AllowedSettings.read_leads (control : VmxControl) :
    frame.Leads rest words (AllowedSettings.read control) (hw.allowedSettings rest control)
      words := by
  have settings : AllowedSettings.ofCapability (hw.msr rest (control.capabilityMsr
      (VmxBasic.mk (hw.msr rest Msr.vmxBasic)).trueControls)) = hw.allowedSettings rest control :=
    congrArg AllowedSettings.ofCapability (hw.msr_capabilityMsr rest control)
  exact (VmcsHolder.Leads.inspect (.readMsr _) trivial).bind
    ((VmcsHolder.Leads.inspect (.readMsr _) trivial).bind (settings ▸ .pure _))

theorem VmxControl.reportUnsupported_leads (control : VmxControl) (requested value : BitVec 32) :
    frame.Leads rest words (control.reportUnsupported requested value) () words := by
  unfold reportUnsupported
  split
  · exact .report _
  · exact .pure ()

theorem VmxControl.writeAdjusted_leads (control : VmxControl) (requested : BitVec 32) :
    let value := (hw.allowedSettings rest control).adjust requested
    frame.Leads rest words (control.writeAdjusted requested).run (.ok value)
      (update words control.field (value.setWidth 64)) := by
  intro value
  have adjusted : frame.Leads rest words (control.adjusted requested) value words :=
    (AllowedSettings.read_leads control).bind (.pure value)
  refine adjusted.procedure_program.procedure_bind ?_
  refine (control.reportUnsupported_leads requested value).procedure_program.procedure_bind ?_
  refine (VmcsHolder.Leads.report _).procedure_program.procedure_bind ?_
  exact (VmcsHolder.Leads.write _ _).procedure_bind (.pure (Except.ok value))

namespace Vmcs

theorem writeControlWords_leads (controls : List VmxControl) :
    frame.Leads rest words (writeControlWords controls).run (.ok ())
      (updateAll words (controlWordValues (hw.allowedSettings rest) controls)) := by
  induction controls generalizing words with
  | nil => exact .pure (Except.ok ())
  | cons control controls ih => exact (control.writeAdjusted_leads _).procedure_bind ih

theorem physicalAddress_leads {address physical : Word}
    (mapped : (hw.answer (.physicalAddress address) rest).1 = some physical) :
    frame.Leads rest words (Procedure.physicalAddress address).run (.ok physical) words := by
  have asked : frame.Leads rest words
      (liftM (Program.request (.physicalAddress address)) : Procedure (Option Word)).run
      (.ok (some physical)) words :=
    mapped ▸ (VmcsHolder.Leads.inspect (.physicalAddress address) trivial).procedure_program
  exact asked.procedure_bind (.pure (Except.ok physical))

theorem physicalAddress_leads_unmapped {address : Word}
    (unmapped : (hw.answer (.physicalAddress address) rest).1 = none) :
    frame.Leads rest words (Procedure.physicalAddress address).run
      (.error (.unmappedAddress address)) words := by
  have asked : frame.Leads rest words
      (liftM (Program.request (.physicalAddress address)) : Procedure (Option Word)).run
      (.ok none) words :=
    unmapped ▸ (VmcsHolder.Leads.inspect (.physicalAddress address) trivial).procedure_program
  exact asked.procedure_bind (.pure (Except.error (Error.unmappedAddress address)))

/-- **Writing the control fields stores adjusted words, the MSR bitmap and zeros.** -/
theorem writeControlFields_leads (memory : VcpuMemory) {bitmap : Word}
    (mapped : (hw.answer (.physicalAddress memory.msrBitmapAddress) rest).1 = some bitmap) :
    frame.Leads rest words (writeControlFields memory).run (.ok ())
      (updateAll words (controlValues (hw.allowedSettings rest) bitmap)) := by
  rw [controlValues, updateAll_append, updateAll_append]
  refine (writeControlWords_leads controlOrder).procedure_bind ?_
  refine (VmcsHolder.Leads.writeAll (zeroedBeforeBitmap.map (·, 0))).procedure_bind ?_
  refine (physicalAddress_leads mapped).procedure_bind ?_
  exact (VmcsHolder.Leads.write _ _).procedure_bind (.writeAll _)

/-- Where the MSR bitmap is not mapped, writing the control fields ends with that. -/
theorem writeControlFields_leads_unmapped (memory : VcpuMemory)
    (unmapped : (hw.answer (.physicalAddress memory.msrBitmapAddress) rest).1 = none) :
    frame.Leads rest words (writeControlFields memory).run
      (.error (.unmappedAddress memory.msrBitmapAddress))
      (updateAll words (controlWordValues (hw.allowedSettings rest) controlOrder ++
        zeroedBeforeBitmap.map (·, 0))) := by
  rw [updateAll_append]
  refine (writeControlWords_leads controlOrder).procedure_bind ?_
  refine (VmcsHolder.Leads.writeAll (zeroedBeforeBitmap.map (·, 0))).procedure_bind ?_
  exact (physicalAddress_leads_unmapped unmapped).procedure_bind_error

/-! ### Nothing else is written -/

/-- A control word is written behind reads of IA32_VMX_BASIC and of one of its capability MSRs. -/
theorem writeAdjusted_only {P : Operation → Prop} (control : VmxControl) (requested : BitVec 32)
    (reports : ∀ diagnostic, P (.report diagnostic)) (basic : P (.readMsr Msr.vmxBasic))
    (capability : ∀ trueControls, P (.readMsr (control.capabilityMsr trueControls)))
    (writes : ∀ content, P (.vmwrite control.field content)) :
    (control.writeAdjusted requested).run.Only P := by
  have read : (control.adjusted requested).Only P :=
    ⟨basic, fun _ => ⟨capability _, fun _ => trivial⟩⟩
  have reported : ∀ value, (control.reportUnsupported requested value).Only P := fun value => by
    unfold VmxControl.reportUnsupported
    split
    · exact ⟨reports _, fun _ => trivial⟩
    · trivial
  have stored : ∀ value : BitVec 32, (write control.field (value.setWidth 64)).run.Only P :=
    fun value => ⟨writes _, fun _ => trivial⟩
  refine read.procedure_program.procedure_bind fun value => ?_
  refine (reported value).procedure_program.procedure_bind fun _ => ⟨reports _, fun _ => ?_⟩
  exact (stored value).procedure_bind fun _ => trivial

theorem writeControlWords_only {P : Operation → Prop} {controls : List VmxControl}
    (reports : ∀ diagnostic, P (.report diagnostic)) (basic : P (.readMsr Msr.vmxBasic))
    (capability : ∀ control ∈ controls, ∀ trueControls,
      P (.readMsr (control.capabilityMsr trueControls)))
    (writes : ∀ control ∈ controls, ∀ content, P (.vmwrite control.field content)) :
    (writeControlWords controls).run.Only P := by
  induction controls with
  | nil => trivial
  | cons control controls ih =>
      have first := writeAdjusted_only control (requestedControls control) reports basic
        (capability control List.mem_cons_self) (writes control List.mem_cons_self)
      exact first.procedure_bind fun _ => ih
        (fun later inside => capability later (List.mem_cons_of_mem _ inside))
        fun later inside => writes later (List.mem_cons_of_mem _ inside)

/-- **No field besides the control fields is written**, whatever the processor answers. -/
theorem writeControlFields_fills (memory : VcpuMemory) :
    (writeControlFields memory).run.Only (Operation.Fills controlFields) := by
  have zeroed : ∀ {fields : List Field}, fields ⊆ controlFields →
      (writeAll (fields.map (·, 0))).run.Only (Operation.Fills controlFields) := fun inside =>
    writeAll_fills (List.forall_mem_map.2 fun _ mem => inside mem)
  have behind : zeroedBeforeBitmap ++ Field.msrBitmapAddress :: zeroedAfterBitmap
      ⊆ controlFields := List.subset_append_right _ _
  have words : (writeControlWords controlOrder).run.Only (Operation.Fills controlFields) :=
    writeControlWords_only (fun _ => trivial) trivial (fun _ _ _ => trivial)
      fun control _ _ => field_mem_controlFields control
  refine words.procedure_bind fun _ => ?_
  refine (zeroed fun _ mem => behind (List.mem_append_left _ mem)).procedure_bind fun _ => ?_
  refine (physicalAddress_fills _).procedure_bind fun physical => ?_
  have bitmap : Field.msrBitmapAddress ∈ controlFields :=
    behind (List.mem_append_right _ List.mem_cons_self)
  refine (write_fills bitmap physical).procedure_bind fun _ => zeroed fun _ mem => ?_
  exact behind (List.mem_append_right _ (List.mem_cons_of_mem _ mem))

end Vmcs

/-! ## The result -/

/-- The bits that are requested of a control word. -/
theorem Vmcs.requestedControls_iff {control : VmxControl} {asked : List Nat}
    (narrow : ∀ i ∈ asked, i < 32)
    (bits : ∀ i < 32, ((requestedControls control).getLsbD i = true ↔ i ∈ asked)) (i : Nat) :
    (requestedControls control).getLsbD i = true ↔ i ∈ asked :=
  ⟨fun set => (bits i (BitVec.lt_of_getLsbD set)).1 set, fun mem => (bits i (narrow i mem)).2 mem⟩

/-- **The control fields honour the capabilities**, on every processor with a current VMCS whose
capabilities are consistent and that maps the MSR bitmap: writing them succeeds; every control word
honours the capability in force, with the bits that are listed asked for; the address of the MSR
bitmap is its physical one; every other field that is written is a control field and zero, among
them those that are listed; no field outside of the control area changes, and neither does the rest
of the processor. -/
theorem writeControlFields_honours (frame : VmcsFrame hw) (memory : VcpuMemory) {s : σ}
    {bitmap : Word} (holds : frame.Holds s)
    (mapped : (hw.answer (.physicalAddress memory.msrBitmapAddress) s).1 = some bitmap)
    (consistent : ∀ control, CapabilityConsistent (hw.capability s control)) :
    let ended := hw.run (Vmcs.writeControlFields memory).run s
    let words := frame.word ended.2
    ended.1 = .ok () ∧
    CapabilityHonoured (hw.capability s .pinBased) [3, 5] (words 0x4000) ∧
    CapabilityHonoured (hw.capability s .primary) [15, 16, 28, 31] (words 0x4002) ∧
    CapabilityHonoured (hw.capability s .secondary) [3, 12, 19, 20, 26] (words 0x401e) ∧
    CapabilityHonoured (hw.capability s .exit) [2, 9, 24] (words 0x400c) ∧
    CapabilityHonoured (hw.capability s .entry) [2, 9, 17] (words 0x4012) ∧
    words 0x2004 = bitmap ∧
    (∀ field ∈ ([0x4004, 0x4006, 0x4008, 0x6000, 0x6002, 0x6004, 0x6006, 0x400a, 0x6008, 0x600a,
        0x600c, 0x600e, 0x400e, 0x2006, 0x4010, 0x2008, 0x4014, 0x200a, 0x4016, 0x4018, 0x401a] :
        List Field), words field = 0) ∧
    (∀ field : Field,
      (∃ step ∈ hw.steps (Vmcs.writeControlFields memory).run s, step.1.Writes field) →
        field.area = .control ∧
        (field ∈ ([0x4000, 0x4002, 0x401e, 0x400c, 0x4012, 0x2004] : List Field) ∨
          words field = 0)) ∧
    (∀ field : Field, field.area ≠ .control → words field = frame.word s field) ∧
    frame.rest ended.2 = frame.rest s := by
  intro ended words
  have found := frame.inspected (.physicalAddress memory.msrBitmapAddress) s trivial holds
  have settings : hw.allowedSettings (frame.rest s) = hw.allowedSettings s :=
    funext (frame.allowedSettings_rest holds)
  obtain ⟨ok, shows⟩ := Vmcs.writeControlFields_leads memory (found ▸ mapped) s
    (frame.shows_self holds)
  rw [settings] at shows
  have stored : ∀ {field value}, (field, value) ∈ Vmcs.controlValues (hw.allowedSettings s) bitmap →
      words field = value := fun mem =>
    (congrFun shows.word _).trans (Vmcs.updateAll_controlValues mem)
  have zeroed : ∀ field, field ∈ Vmcs.zeroedBeforeBitmap ++ Vmcs.zeroedAfterBitmap →
      words field = 0 := fun field mem =>
    stored (Vmcs.zero_mem_controlValues _ bitmap (List.mem_append.1 mem))
  have honoured (control : VmxControl) {asked : List Nat} (narrow : ∀ i ∈ asked, i < 32)
      (bits : ∀ i < 32, ((Vmcs.requestedControls control).getLsbD i = true ↔ i ∈ asked)) :
      CapabilityHonoured (hw.capability s control) asked (words control.field) := by
    rw [stored (Vmcs.adjustedWord_mem_controlValues _ bitmap control)]
    exact .adjust (consistent control) (Vmcs.requestedControls_iff narrow bits)
  refine ⟨ok, honoured .pinBased (by decide) (by decide), honoured .primary (by decide) (by decide),
    honoured .secondary (by decide) (by decide), honoured .exit (by decide) (by decide),
    honoured .entry (by decide) (by decide), stored (Vmcs.bitmap_mem_controlValues _ bitmap),
    zeroed, ?_, fun field outside => ?_, shows.rest⟩
  · rintro field ⟨step, mem, writes⟩
    have inside := ((Vmcs.writeControlFields_fills memory).of_mem_steps mem).mem_of_writes writes
    refine ⟨Vmcs.area_of_mem_controlFields inside, ?_⟩
    rw [Vmcs.controlFields, List.mem_append, List.mem_append, List.mem_cons] at inside
    rcases inside with word | before | bitmapAddress | after
    · exact .inl (List.mem_append_left [0x2004] word)
    · exact .inr (zeroed field (List.mem_append_left _ before))
    · exact .inl (List.mem_append_right [0x4000, 0x4002, 0x401e, 0x400c, 0x4012]
        (List.mem_singleton.2 bitmapAddress))
    · exact .inr (zeroed field (List.mem_append_right _ after))
  · rw [show words = _ from shows.word]
    refine updateAll_of_notMem _ fun inside => outside ?_
    exact Vmcs.area_of_mem_controlFields (Vmcs.map_fst_controlValues _ _ ▸ inside)

/-- The simulated processor at reset, and a machine that allows no more than 16 bits in any control
word, so that none of the upper ones is granted. -/
theorem writeControlFields_honours_reset :
    let memory := VcpuMemory.fresh 0x2a5bc3700000
    let cpu := SimulatedProcessor.reset.enterVmxWithCurrentVmcs
    let machine : Machine :=
      { msrs := fun _ => 0x0000ffff00000016, addressMap := some Machine.nextPage }
    let simulated := SimulatedProcessor.hardware.run (Vmcs.writeControlFields memory).run cpu
    let executed := Machine.hardware.run (Vmcs.writeControlFields memory).run machine
    (simulated.1 = .ok () ∧ (simulated.2.word 0x4000).getLsbD 5 = true ∧
      simulated.2.word 0x2004 = 0x2a5bc3708000 ∧ simulated.2.word 0x6820 = cpu.word 0x6820) ∧
    executed.1 = .ok () ∧ (executed.2.field 0x401e).getLsbD 20 = false ∧
      executed.2.field 0x2004 = 0x2a5bc3709000 ∧
      executed.2.field 0x6c16 = machine.field 0x6c16 := by
  intro memory cpu machine simulated executed
  have current : cpu.vmcsFrame.Holds cpu := ⟨rfl, rfl⟩
  have idle : machine.vmcsFrame.Holds machine := rfl
  have consistent : ∀ control,
      CapabilityConsistent (SimulatedProcessor.hardware.capability cpu control) := fun control => by
    cases control <;> decide
  have consistent' : ∀ control,
      CapabilityConsistent (Machine.hardware.capability machine control) := fun control => by
    cases control <;> decide
  have mapped : (SimulatedProcessor.hardware.answer (.physicalAddress memory.msrBitmapAddress)
      cpu).1 = some 0x2a5bc3708000 := by decide
  have mapped' : (Machine.hardware.answer (.physicalAddress memory.msrBitmapAddress)
      machine).1 = some 0x2a5bc3709000 := by decide
  obtain ⟨ok, pinBased, -, -, -, -, bitmap, -, -, kept, -⟩ :=
    writeControlFields_honours cpu.vmcsFrame memory current mapped consistent
  obtain ⟨ok', -, -, secondary, -, -, bitmap', -, -, kept', -⟩ :=
    writeControlFields_honours machine.vmcsFrame memory idle mapped' consistent'
  have virtual : (simulated.2.word 0x4000).getLsbD 5 = true :=
    (pinBased.grants 5 (by decide)).2 (by decide)
  have refused : ¬(executed.2.field 0x401e).getLsbD 20 = true := fun set =>
    absurd ((secondary.grants 20 (by decide)).1 set) (by decide)
  exact ⟨⟨ok, virtual, bitmap, kept _ (by decide)⟩, ok', Bool.eq_false_iff.2 refused, bitmap',
    kept' _ (by decide)⟩

end Writing

end VtxMonitor
