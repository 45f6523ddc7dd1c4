import VtxMonitor.Proofs.Processor.RegisterFile
import VtxMonitor.Proofs.Vcpu.Identity
import VtxMonitor.Proofs.Vcpu.Requests
import VtxMonitor.Proofs.Vmcs.GuestArea

/-!
# Proofs/Vcpu/FixedBits — CR0 and CR4 as VMX operation demands them

VMX operation fixes some bits of CR0 and CR4, by two MSRs for each of them.  The bring-up adjusts
the registers before VMXON and leaves them alone afterwards, so that both areas of the VMCS are
filled with the adjusted values, while those from before are kept for the rollback
(`Vcpu.Settled`).  If the MSRs do not contradict each other, **the adjusted registers satisfy them
and are otherwise as they were** (`virtualize_fixesBits`), on every processor.
-/

namespace VtxMonitor

open Vmcs (Field)

variable {σ : Type} {hw : Hardware σ}

/-! ## Fixed bits of a register -/

/-- `adjusted` is the register `value` with the bits of `asked` set and with the bits that two MSRs
fix: `fixed0` has the bits that must be 1, and `fixed1` lacks those that must be 0. -/
structure AdjustsBits (asked fixed0 fixed1 value adjusted : Word) : Prop where
  contains : adjusted &&& fixed0 = fixed0
  within : adjusted &&& ~~~fixed1 = 0
  grants : adjusted &&& asked = asked
  keeps : ∀ i, fixed0.getLsbD i = false → fixed1.getLsbD i = true → asked.getLsbD i = false →
    adjusted.getLsbD i = value.getLsbD i

namespace Vcpu

theorem getLsbD_fixedBits (value fixed0 fixed1 : Word) (i : Nat) :
    (fixedBits value fixed0 fixed1).getLsbD i
      = ((value.getLsbD i || fixed0.getLsbD i) && fixed1.getLsbD i) := by
  rw [fixedBits, BitVec.getLsbD_and, BitVec.getLsbD_or]

/-- **Fixing bits adjusts a register**, if no bit must be both 0 and 1 and the bits asked for need
not be 0. -/
theorem fixedBits_adjusts {asked fixed0 fixed1 : Word} (value : Word)
    (consistent : fixed0 &&& ~~~fixed1 = 0) (allowed : asked &&& ~~~fixed1 = 0) :
    AdjustsBits asked fixed0 fixed1 value (fixedBits (value ||| asked) fixed0 fixed1) := by
  rw [and_not_eq_zero_iff_bits] at consistent allowed
  refine ⟨?_, ?_, ?_, fun i mayBe0 mayBe1 notAsked => ?_⟩
  · refine and_eq_right_iff_bits.2 fun i mustBe1 => ?_
    rw [getLsbD_fixedBits, mustBe1, consistent i mustBe1, Bool.or_true, Bool.true_and]
  · refine and_not_eq_zero_iff_bits.2 fun i set => ?_
    rw [getLsbD_fixedBits, Bool.and_eq_true] at set
    exact set.2
  · refine and_eq_right_iff_bits.2 fun i isAsked => ?_
    rw [getLsbD_fixedBits, BitVec.getLsbD_or, isAsked, allowed i isAsked, Bool.or_true,
      Bool.true_or, Bool.true_and]
  · rw [getLsbD_fixedBits, BitVec.getLsbD_or, notAsked, mayBe0, mayBe1, Bool.or_false,
      Bool.or_false, Bool.and_true]

end Vcpu

/-- The MSRs that fix bits do not contradict each other, and they allow VMX operation. -/
structure FixedBitsConsistent (msr : Msr.Number → Word) : Prop where
  cr0 : msr Msr.cr0Fixed0 &&& ~~~msr Msr.cr0Fixed1 = 0
  cr4 : msr Msr.cr4Fixed0 &&& ~~~msr Msr.cr4Fixed1 = 0
  vmxe : cr4Vmxe &&& ~~~msr Msr.cr4Fixed1 = 0

/-- The control registers with the bits that VMX operation fixes. -/
def fixedRegisters (msr : Msr.Number → Word) (cr : ControlRegister → Word) :
    ControlRegister → Word
  | .cr0 => Vcpu.fixedBits (cr .cr0) (msr Msr.cr0Fixed0) (msr Msr.cr0Fixed1)
  | .cr3 => cr .cr3
  | .cr4 => Vcpu.fixedBits (cr .cr4 ||| cr4Vmxe) (msr Msr.cr4Fixed0) (msr Msr.cr4Fixed1)

/-- `adjusted` are the control registers `before` as VMX operation demands them. -/
structure FixesBits (msr : Msr.Number → Word) (before adjusted : ControlRegister → Word) :
    Prop where
  cr0 : AdjustsBits 0 (msr Msr.cr0Fixed0) (msr Msr.cr0Fixed1) (before .cr0) (adjusted .cr0)
  cr3 : adjusted .cr3 = before .cr3
  cr4 : AdjustsBits cr4Vmxe (msr Msr.cr4Fixed0) (msr Msr.cr4Fixed1) (before .cr4) (adjusted .cr4)

theorem fixedRegisters_fixesBits {msr : Msr.Number → Word} (consistent : FixedBitsConsistent msr)
    (before : ControlRegister → Word) : FixesBits msr before (fixedRegisters msr before) where
  cr0 := by
    have nothing : (0 : Word) &&& ~~~msr Msr.cr0Fixed1 = 0 := BitVec.zero_and
    have adjusts := Vcpu.fixedBits_adjusts (before .cr0) consistent.cr0 nothing
    rwa [show before .cr0 ||| 0 = before .cr0 from BitVec.or_zero] at adjusts
  cr3 := rfl
  cr4 := Vcpu.fixedBits_adjusts (before .cr4) consistent.cr4 consistent.vmxe

/-- The MSRs besides IA32_FEATURE_CONTROL fix the bits. -/
theorem fixedRegisters_congr {msr msr' : Msr.Number → Word} (before : ControlRegister → Word)
    (same : ∀ number ≠ Msr.featureControl, msr' number = msr number) :
    fixedRegisters msr' before = fixedRegisters msr before := by
  funext register
  cases register with
  | cr0 => rw [fixedRegisters, fixedRegisters, same _ (by decide), same _ (by decide)]
  | cr3 => rfl
  | cr4 => rw [fixedRegisters, fixedRegisters, same _ (by decide), same _ (by decide)]

namespace Vcpu

/-! ## Adjusting the registers -/

/-- The virtual processor once the control registers `before` are adjusted. -/
def withSaved (vcpu : Vcpu) (before : ControlRegister → Word) : Vcpu :=
  { vcpu with savedCr0 := before .cr0, savedCr4 := before .cr4, stage := .vmxEnabled }

/-- What adjusting the control registers comes to on any processor. -/
structure Adjusted (file : RegisterFile hw) (vcpu : Vcpu) (s : σ) (ended : (Unit × Vcpu) × σ) :
    Prop where
  record : ended.1.2 = vcpu.withSaved (file.cr s)
  cr : file.cr ended.2 = fixedRegisters (file.msr s) (file.cr s)

theorem adjustControlRegisters_adjusts (file : RegisterFile hw) (vcpu : Vcpu) (s : σ) :
    Adjusted file vcpu s (hw.run (adjustControlRegisters.run vcpu) s) := by
  have readCr : ∀ register s, file.cr (hw.answer (.readCr register) s).2 = file.cr s ∧
      file.msr (hw.answer (.readCr register) s).2 = file.msr s := fun register s =>
    ⟨file.keptCr _ s id, file.keptMsr _ s id⟩
  have readMsr : ∀ number s, file.cr (hw.answer (.readMsr number) s).2 = file.cr s ∧
      file.msr (hw.answer (.readMsr number) s).2 = file.msr s := fun number s =>
    ⟨file.keptCr _ s id, file.keptMsr _ s id⟩
  unfold adjustControlRegisters
  rw [Hardware.run_owned_request, Hardware.run_owned_request, Hardware.run_owned_modify]
  repeat rw [Hardware.run_owned_request]
  refine ⟨?_, ?_⟩
  · simp only [file.readCr, (readCr _ _).1]
    rfl
  · change file.cr (hw.answer .enableInterrupts _).2 = _
    rw [file.keptCr _ _ id, file.wroteCr, file.wroteCr]
    simp only [file.readCr, file.readMsr, readCr, readMsr]
    funext register
    cases register <;> rfl

theorem enableVmx_adjusts (file : RegisterFile hw) (featureControl : FeatureControlState)
    (vcpu : Vcpu) (s : σ) :
    Adjusted file vcpu s (hw.run ((enableVmx featureControl).run vcpu) s) := by
  have adjusts : ∀ s', file.cr s' = file.cr s →
      (∀ number ≠ Msr.featureControl, file.msr s' number = file.msr s number) →
      Adjusted file vcpu s (hw.run (adjustControlRegisters.run vcpu) s') := by
    intro s' cr msr
    obtain ⟨record, adjusted⟩ := adjustControlRegisters_adjusts file vcpu s'
    exact ⟨cr ▸ record, by rw [adjusted, cr, fixedRegisters_congr _ msr]⟩
  have disabled : file.cr (hw.answer .disableInterrupts s).2 = file.cr s ∧
      file.msr (hw.answer .disableInterrupts s).2 = file.msr s :=
    ⟨file.keptCr _ s id, file.keptMsr _ s id⟩
  cases featureControl with
  | enabled =>
      rw [enableVmx_enabled, Hardware.run_owned_request]
      exact adjusts _ disabled.1 fun _ _ => by rw [disabled.2]
  | unlocked =>
      rw [enableVmx_unlocked, Hardware.run_owned_request, Hardware.run_owned_program]
      have spares : lockFeatureControl.Only fun op => ¬op.WritesCr :=
        ⟨id, fun _ => ⟨id, fun _ => ⟨id, fun _ => trivial⟩⟩⟩
      refine adjusts _ ((file.keptCr_run spares _).trans disabled.1) fun number other => ?_
      have stored (s : σ) : file.msr (hw.run lockFeatureControl s).2 number = file.msr s number := by
        change file.msr (hw.answer (.writeMsr Msr.featureControl _) _).2 number = _
        rw [file.wroteMsr, update_of_ne _ _ other, file.keptMsr _ _ id, file.keptMsr _ _ id]
      rw [stored, disabled.2]

end Vcpu

/-! ## Copies in the VMCS -/

namespace Vmcs

/-- The field of the host-state area that holds a control register. -/
def hostField : ControlRegister → Field
  | .cr0 => .hostCr0
  | .cr3 => .hostCr3
  | .cr4 => .hostCr4

section

variable (file : RegisterFile hw) (field : ControlRegister → Field)
  (distinct : [field .cr0, field .cr3, field .cr4].Nodup) {s : σ}
include distinct

/-- **Copies of the control registers that succeed** hold what the registers hold. -/
theorem word_copyControlRegisters
    (succeeds : (hw.run (copyControlRegisters (field .cr0) (field .cr3) (field .cr4)).run s).1
      = .ok ()) (register : ControlRegister) :
    file.word (hw.run (copyControlRegisters (field .cr0) (field .cr3) (field .cr4)).run s).2
      (field register) = file.cr s register := by
  have asked : ∀ register s, file.cr (hw.answer (.readCr register) s).2 = file.cr s :=
    fun register s => file.keptCr _ s id
  revert succeeds
  unfold copyControlRegisters
  rw [Hardware.run_procedure_request, Hardware.run_procedure_request,
    Hardware.run_procedure_request]
  simp only [file.readCr, asked]
  intro succeeds
  refine file.word_writeAll ?_ succeeds (by cases register <;> simp)
  exact distinct

/-- **They stay**, if what follows spares them. -/
theorem word_copyControlRegisters_bind {rest : Procedure Unit}
    (spares : ∀ register, rest.run.Only fun op => ¬op.Touches (field register))
    (succeeds : (hw.run (copyControlRegisters (field .cr0) (field .cr3) (field .cr4) >>=
      fun _ => rest).run s).1 = .ok ()) (register : ControlRegister) :
    file.word (hw.run (copyControlRegisters (field .cr0) (field .cr3) (field .cr4) >>=
      fun _ => rest).run s).2 (field register) = file.cr s register := by
  have copied := @word_copyControlRegisters _ _ file field distinct s
  rw [Hardware.run_procedure_bind] at succeeds ⊢
  generalize hw.run (copyControlRegisters _ _ _).run s = first at copied succeeds ⊢
  obtain ⟨error | ⟨⟩, s'⟩ := first
  · exact nomatch succeeds
  · exact (file.keptField_run (spares register) s').trans (copied rfl register)

end

/-- Behind the control registers, no copy of them in the host-state area is written. -/
theorem writeHostContext_spares (memory : VcpuMemory) (register : ControlRegister) :
    (writeHostContext memory).run.Only fun op => ¬op.Touches (hostField register) :=
  (writeHostContext_fills memory).not_touches (by cases register <;> decide +kernel)

/-- Behind the control registers, no copy of them in the guest-state area is written. -/
theorem writeGuestContext_spares (register : ControlRegister) :
    writeGuestContext.run.Only fun op => ¬op.Touches (Emulation.guestField register) :=
  writeGuestContext_fills.not_touches (by cases register <;> decide +kernel)

/-- Filling the guest-state area spares the host-state area. -/
theorem writeGuestFields_spares (register : ControlRegister) :
    writeGuestFields.run.Only fun op => ¬op.Touches (hostField register) :=
  writeGuestFields_fills.not_touches (by cases register <;> decide +kernel)

end Vmcs

namespace Vcpu

open Script

/-! ## The bring-up -/

/-- What is saved for the rollback. -/
def saved (vcpu : Vcpu) : Word × Word := (vcpu.savedCr0, vcpu.savedCr4)

theorem saved_lasting : Lasting saved := fun _ _ _ _ => rfl

/-- The control registers `before` are saved, those of `adjusted` are in force, and copies of them
are in the VMCS. -/
structure Settled (file : RegisterFile hw) (before adjusted : ControlRegister → Word)
    (copies : List (ControlRegister → Field)) (vcpu : Vcpu) (s : σ) : Prop where
  rollback : vcpu.saved = (before .cr0, before .cr4)
  cr : file.cr s = adjusted
  copied : ∀ field ∈ copies, ∀ register, file.word s (field register) = adjusted register

/-- Control registers and MSRs of a processor, whatever the virtual processor is. -/
def Found (file : RegisterFile hw) (msr : Msr.Number → Word) (before : ControlRegister → Word)
    (_ : Vcpu) (s : σ) : Prop := file.cr s = before ∧ file.msr s = msr

/-- Requests that write no control register and none of its copies. -/
def SparesCopies (copies : List (ControlRegister → Field)) (op : Operation) : Prop :=
  ¬op.WritesCr ∧ ∀ field ∈ copies, ∀ register, ¬op.Touches (field register)

theorem not_writesCr_of_inert {op : Operation} (inert : op.Inert) : ¬op.WritesCr := by
  cases op <;> first | exact id | exact inert.elim

theorem not_writesMsr_of_inert {op : Operation} (inert : op.Inert) : ¬op.WritesMsr := by
  cases op <;> first | exact id | exact inert.elim

theorem sparesCopies_of_inert {op : Operation} (inert : op.Inert) :
    SparesCopies [Emulation.guestField, Vmcs.hostField] op := by
  cases op <;> first | exact ⟨id, fun _ _ _ => id⟩ | exact inert.elim

/-- The copies are no fields in which a failed launch is explained. -/
theorem sparesCopies_vmlaunch : SparesCopies [Emulation.guestField, Vmcs.hostField] .vmlaunch := by
  have explained : ∀ field ∈ [Emulation.guestField, Vmcs.hostField], ∀ register,
      field register ≠ .instructionError := by
    simp only [List.forall_mem_cons]
    refine ⟨fun register => ?_, fun register => ?_, nofun⟩ <;> cases register <;> decide
  exact ⟨id, explained⟩

theorem sparesCopies_of_not_writesCr {op : Operation} (spares : ¬op.WritesCr) :
    SparesCopies [] op := ⟨spares, nofun⟩

section

variable {file : RegisterFile hw} {before adjusted : ControlRegister → Word}
  {copies : List (ControlRegister → Field)} {α : Type}

/-- What spares registers and copies keeps them settled. -/
theorem Settled.kept {procedure : Fallible Vcpu α} (keeps : procedure.Keeps saved)
    (spares : ∀ vcpu, (procedure.start vcpu).Only (SparesCopies copies)) :
    Fallible.Ensures hw (Settled file before adjusted copies) procedure
      fun _ => Settled file before adjusted copies := by
  refine .of_kept fun vcpu s settled => ⟨(keeps _ hw vcpu s).trans settled.rollback, ?_, ?_⟩
  · exact (file.keptCr_run ((spares vcpu).mono fun _ => And.left) s).trans settled.cr
  · intro field mem register
    have only := (spares vcpu).mono fun op spares => spares.2 field mem register
    exact (file.keptField_run only s).trans (settled.copied field mem register)

/-- **Filling the VMCS copies the control registers to both areas.** -/
theorem Settled.of_populate (memory : VcpuMemory) :
    Fallible.Ensures hw (Settled file before adjusted [])
      (liftM (Vmcs.populate memory) : Fallible Vcpu Unit)
      fun _ => Settled file before adjusted [Emulation.guestField, Vmcs.hostField] := by
  have notCr : ∀ {α : Type} {program : Program α} {fields : List Field},
      program.Only (Operation.Fills fields) → program.Only fun op => ¬op.WritesCr :=
    fun fills => fills.mono fun _ fills => fills.filling.not_writesCr
  have controls := notCr (Vmcs.writeControlFields_fills memory)
  have hosts := notCr (Vmcs.writeHostFields_fills memory)
  have guests := notCr Vmcs.writeGuestFields_fills
  have control : Fallible.Ensures hw (Settled file before adjusted [])
      (liftM (Vmcs.writeControlFields memory) : Fallible Vcpu Unit)
      fun _ => Settled file before adjusted [] :=
    Settled.kept (.of_procedure _) fun vcpu =>
      (controls.mono fun _ => sparesCopies_of_not_writesCr).start_procedure vcpu
  have host : Fallible.Ensures hw (Settled file before adjusted [])
      (liftM (Vmcs.writeHostFields memory) : Fallible Vcpu Unit)
      fun _ => Settled file before adjusted [Vmcs.hostField] := by
    refine .of_procedure fun vcpu s settled value succeeds => ?_
    have copied := Vmcs.word_copyControlRegisters_bind file Vmcs.hostField (by decide)
      (Vmcs.writeHostContext_spares memory) succeeds
    refine ⟨settled.rollback, (file.keptCr_run hosts s).trans settled.cr, ?_⟩
    rw [List.forall_mem_singleton]
    exact fun register => (copied register).trans (congrFun settled.cr register)
  have guest : Fallible.Ensures hw (Settled file before adjusted [Vmcs.hostField])
      (liftM Vmcs.writeGuestFields : Fallible Vcpu Unit)
      fun _ => Settled file before adjusted [Emulation.guestField, Vmcs.hostField] := by
    refine .of_procedure fun vcpu s settled value succeeds => ?_
    have kept (register : ControlRegister) :=
      file.keptField_run (Vmcs.writeGuestFields_spares register) s
    have copied := Vmcs.word_copyControlRegisters_bind file Emulation.guestField (by decide)
      Vmcs.writeGuestContext_spares succeeds
    refine ⟨settled.rollback, (file.keptCr_run guests s).trans settled.cr, ?_⟩
    rw [List.forall_mem_cons, List.forall_mem_singleton]
    refine ⟨fun register => (copied register).trans (congrFun settled.cr register), ?_⟩
    exact fun register => (kept register).trans
      (settled.copied _ (List.mem_singleton_self _) register)
  rw [Vmcs.populate, Procedure.liftM_bind, Procedure.liftM_bind]
  exact control.bind fun _ => host.bind fun _ => guest

/-! ### Everything behind the adjusted registers -/

/-- A bring-up that succeeds leaves the adjusted registers in force and in the VMCS. -/
theorem Settled.of_bringUpAdjusted :
    Fallible.Ensures hw (Settled file before adjusted []) bringUpAdjusted
      fun _ => Settled file before adjusted [Emulation.guestField, Vmcs.hostField] := by
  have inert : ∀ op : Operation, op.Inert → SparesCopies [] op :=
    fun op inert => sparesCopies_of_not_writesCr (not_writesCr_of_inert inert)
  have reported : ∀ diagnostic, Fallible.Ensures hw (Settled file before adjusted [])
      (liftM (Program.report diagnostic) : Fallible Vcpu Unit)
      fun _ => Settled file before adjusted [] := fun diagnostic =>
    Settled.kept (.of_program _) fun _ => report_only inert diagnostic
  have entered : Fallible.Ensures hw (Settled file before adjusted []) enterVmx
      fun _ => Settled file before adjusted [] :=
    Settled.kept (enterVmx_keeps saved_lasting) fun _ => enterVmx_only inert
      (fun _ => sparesCopies_of_not_writesCr id) (sparesCopies_of_not_writesCr id)
  have loaded : Fallible.Ensures hw (Settled file before adjusted []) loadVmcs
      fun _ => Settled file before adjusted [] :=
    Settled.kept (loadVmcs_keeps saved_lasting) fun _ => loadVmcs_only inert
      (fun _ => sparesCopies_of_not_writesCr id) fun _ => sparesCopies_of_not_writesCr id
  have prepared : Fallible.Ensures hw (Settled file before adjusted [])
      (liftM prepare : Fallible Vcpu Unit) fun _ => Settled file before adjusted [] :=
    Settled.kept (prepare_keeps saved_lasting) fun _ => (prepare_inert.mono inert).start_owned
  have got : Fallible.Ensures hw (Settled file before adjusted []) (get : Fallible Vcpu Vcpu)
      fun _ => Settled file before adjusted [] := Settled.kept .of_get fun _ => trivial
  have launched : Fallible.Ensures hw
      (Settled file before adjusted [Emulation.guestField, Vmcs.hostField]) launchGuest
      fun _ => Settled file before adjusted [Emulation.guestField, Vmcs.hostField] :=
    Settled.kept (launchGuest_keeps saved_lasting) fun _ =>
      launchGuest_only (fun _ => sparesCopies_of_inert) sparesCopies_vmlaunch
  refine (reported _).bind fun _ => entered.bind fun _ => (reported _).bind fun _ => ?_
  refine loaded.bind fun _ => (reported _).bind fun _ => prepared.bind fun _ => ?_
  exact (reported _).bind fun _ => got.bind fun vcpu => (Settled.of_populate vcpu.memory).bind
    fun _ => launched

/-- Adjusting the control registers settles them. -/
theorem Settled.of_enableVmx (file : RegisterFile hw) (msr : Msr.Number → Word)
    (before : ControlRegister → Word) (featureControl : FeatureControlState) :
    Fallible.Ensures hw (Found file msr before)
      (liftM (enableVmx featureControl) : Fallible Vcpu Unit)
      fun _ => Settled file before (fixedRegisters msr before) [] := by
  rintro vcpu s ⟨cr, msrs⟩ value -
  rw [Hardware.execute_owned]
  obtain ⟨record, adjusted⟩ := enableVmx_adjusts file featureControl vcpu s
  refine ⟨?_, ?_, nofun⟩
  · rw [record, cr]
    rfl
  · rw [adjusted, cr, msrs]

/-- What comes before a bring-up and asks for nothing but information leaves the registers alone. -/
theorem ensures_of_inert (file : RegisterFile hw) (msr : Msr.Number → Word)
    {procedure : Fallible Vcpu α} (only : ∀ vcpu, (procedure.start vcpu).Only Operation.Inert) :
    Fallible.Ensures hw (Found file msr before) procedure
      fun _ => Found file msr before := by
  refine .of_kept fun vcpu s found => ⟨?_, ?_⟩
  · exact (file.keptCr_run ((only vcpu).mono fun _ => not_writesCr_of_inert) s).trans found.1
  · exact (file.keptMsr_run ((only vcpu).mono fun _ => not_writesMsr_of_inert) s).trans found.2

/-- A bring-up that succeeds settles the control registers and copies them. -/
theorem Settled.of_bringUp (file : RegisterFile hw) (msr : Msr.Number → Word)
    (before : ControlRegister → Word) (featureControl : FeatureControlState) :
    Fallible.Ensures hw (Found file msr before)
      (bringUp featureControl) fun _ => Settled file before (fixedRegisters msr before)
        [Emulation.guestField, Vmcs.hostField] := by
  exact (Settled.of_enableVmx file msr before featureControl).bind
    fun _ => Settled.of_bringUpAdjusted

/-! ### VMXON -/

/-- Whether VMXON is only requested with given control registers. -/
def VmxonWith (file : RegisterFile hw) (adjusted : ControlRegister → Word) (op : Operation)
    (s : σ) : Prop :=
  ∀ address, op = .vmxon address → file.cr s = adjusted

theorem vmxonWith_of_inert {op : Operation} (inert : op.Inert) (s : σ) :
    VmxonWith file adjusted op s := by
  rintro address rfl
  exact inert.elim

/-- **VMXON is requested with the adjusted registers.** -/
theorem bringUp_vmxonWith (file : RegisterFile hw) (msr : Msr.Number → Word)
    (before : ControlRegister → Word) (featureControl : FeatureControlState) :
    Fallible.Asks hw (Found file msr before)
      (bringUp featureControl) (VmxonWith file (fixedRegisters msr before)) := by
  refine .bind (.of_only fun vcpu => ?_) (Settled.of_enableVmx file msr before featureControl)
    fun _ vcpu s settled step mem address _ => ?_
  · exact (enableVmx_only (fun _ inert s => vmxonWith_of_inert inert s) featureControl
      (fun _ _ _ _ => nofun) fun _ _ _ => nofun).start_owned
  · have kept : (Fallible.start bringUpAdjusted vcpu).Only fun op => ¬op.WritesCr :=
      bringUpAdjusted_only (fun _ => not_writesCr_of_inert) (fun _ => id) id (fun _ => id)
        (fun _ => id) (fun _ => Operation.Filling.not_writesCr) id
    exact (file.keptCr_steps kept mem).trans settled.cr

/-! ### The whole virtualization -/

variable (file : RegisterFile hw) (msr : Msr.Number → Word) (before : ControlRegister → Word)

/-- **A virtualization that succeeds** leaves the adjusted registers in force and in the VMCS, and
saves the registers that it found. -/
theorem Settled.of_virtualize :
    Fallible.Ensures hw (Found file msr before) virtualize
      fun _ => Settled file before (fixedRegisters msr before)
        [Emulation.guestField, Vmcs.hostField] := by
  have got : Fallible.Ensures hw (Found file msr before) (get : Fallible Vcpu Vcpu)
      fun _ => Found file msr before := ensures_of_inert file msr fun _ => trivial
  have reported (diagnostic : Diagnostic) : Fallible.Ensures hw (Found file msr before)
      (liftM (Program.report diagnostic) : Fallible Vcpu Unit) fun _ => Found file msr before :=
    ensures_of_inert file msr fun vcpu => (report_inert diagnostic).start_program vcpu
  have checked : Fallible.Ensures hw (Found file msr before)
      (liftM Support.check : Fallible Vcpu FeatureControlState) fun _ => Found file msr before :=
    ensures_of_inert file msr fun vcpu => check_inert.start_procedure vcpu
  have goOn (vcpu : Vcpu) : Fallible.Ensures hw (Found file msr before) (attempt vcpu.index)
      fun _ => Settled file before (fixedRegisters msr before)
        [Emulation.guestField, Vmcs.hostField] := by
    refine (reported _).bind fun _ => checked.bind fun featureControl => ?_
    refine (Settled.of_bringUp file msr before featureControl).handled fun error => ?_
    refine (Fallible.Ensures.top _).bind fun vcpu => (Fallible.Ensures.top _).bind fun _ => ?_
    exact (Fallible.Ensures.top _).bind fun _ => .of_throw error
  refine got.bind fun vcpu => ?_
  split
  · exact (Fallible.Ensures.of_throw _).bind fun _ => goOn vcpu
  · exact goOn vcpu

/-- **A virtualization asks for VMXON only with the adjusted registers.** -/
theorem virtualize_vmxonWith :
    Fallible.Asks hw (Found file msr before) virtualize
      (VmxonWith file (fixedRegisters msr before)) := by
  let condition := VmxonWith file (fixedRegisters msr before)
  have inert : ∀ op : Operation, op.Inert → ∀ s, condition op s :=
    fun _ inert s => vmxonWith_of_inert inert s
  have reported (diagnostic : Diagnostic) (vcpu : Vcpu) :
      ((liftM (Program.report diagnostic) : Fallible Vcpu Unit).start vcpu).Only Operation.Inert :=
    (report_inert diagnostic).start_program vcpu
  have checked (vcpu : Vcpu) : ((liftM Support.check :
      Fallible Vcpu FeatureControlState).start vcpu).Only Operation.Inert :=
    check_inert.start_procedure vcpu
  have goOn (vcpu : Vcpu) :
      Fallible.Asks hw (Found file msr before) (attempt vcpu.index) condition := by
    refine .bind (.of_only fun vcpu => (reported _ vcpu).mono inert)
      (ensures_of_inert file msr (reported _)) fun _ => ?_
    refine .bind (.of_only fun vcpu => (checked vcpu).mono inert)
      (ensures_of_inert file msr checked) fun featureControl => ?_
    refine (bringUp_vmxonWith file msr before featureControl).handled fun error => ?_
    exact .of_only fun vcpu =>
      giveUp_only inert _ error (fun _ _ _ _ => nofun) fun _ _ _ => nofun
  refine .bind (.of_only fun _ => trivial) (ensures_of_inert file msr fun _ => trivial)
    fun vcpu => ?_
  split
  · exact .bind (.of_only fun _ => trivial) (.of_throw _) fun _ => goOn vcpu
  · exact goOn vcpu

end

/-! ## The result -/

/-- **CR0 and CR4 satisfy their fixed bits before VMXON and in the VMCS**, on every processor of
which the fixed-bit MSRs do not contradict each other, whatever the registers were.  Adjusting them
sets the bits of FIXED0 and of VMXE, clears those outside of FIXED1 and keeps the others, and CR3.
Any VMXON is asked for with the adjusted registers; once a virtualization succeeds, they are what
both areas of the VMCS hold, and what is saved for the rollback are the registers from before. -/
theorem virtualize_fixesBits (file : RegisterFile hw) (vcpu : Vcpu) (s : σ)
    (consistent : FixedBitsConsistent (file.msr s)) :
    ∃ adjusted, FixesBits (file.msr s) (file.cr s) adjusted ∧
      (∀ featureControl,
        file.cr (hw.run ((enableVmx featureControl).run vcpu) s).2 = adjusted) ∧
      (∀ step ∈ hw.stepsOf vcpu s virtualize, ∀ address, step.1 = .vmxon address →
        file.cr step.2 = adjusted) ∧
      let ended := hw.execute vcpu s virtualize
      (ended.outcome = .ok () →
        (∀ register, file.word ended.state (Vmcs.hostField register) = adjusted register ∧
          file.word ended.state (Emulation.guestField register) = adjusted register) ∧
        ended.record.savedCr0 = file.cr s .cr0 ∧ ended.record.savedCr4 = file.cr s .cr4) := by
  refine ⟨fixedRegisters (file.msr s) (file.cr s), fixedRegisters_fixesBits consistent _,
    fun featureControl => (enableVmx_adjusts file featureControl vcpu s).cr,
    virtualize_vmxonWith file _ _ vcpu s ⟨rfl, rfl⟩, fun succeeds => ?_⟩
  have settled := Settled.of_virtualize file _ _ vcpu s ⟨rfl, rfl⟩ () succeeds
  refine ⟨fun register => ⟨settled.copied _ (by simp) register,
    settled.copied _ (by simp) register⟩, ?_⟩
  exact Prod.ext_iff.1 settled.rollback

/-- A processor that demands PE, NE and PG in CR0 and refuses its upper half, with PE, NE and PG
clear and a bit of the upper half set. -/
def demandingProcessor : SimulatedProcessor :=
  { SimulatedProcessor.reset with
    msrs := update (update SimulatedProcessor.reset.msrs Msr.cr0Fixed0 0x80000021) Msr.cr0Fixed1
      0xffffffff
    cr0 := 0x100050010 }

/-- The demanding processor, and a machine that refuses everything in CR4 but VMXE. -/
theorem virtualize_fixesBits_demanding :
    let vcpu := fresh 0 0x1c000 0x10000 .empty {}
    let machine : Machine :=
      { msrs := fun msr => if msr = Msr.cr4Fixed1 then 0x2000 else 0, cr4 := 0x20 }
    let launched := SimulatedProcessor.hardware.execute vcpu demandingProcessor virtualize
    let enabled := (Machine.hardware.run ((enableVmx .enabled).run vcpu) machine).2
    (FixedBitsConsistent demandingProcessor.msrs ∧ launched.outcome = .ok () ∧
      launched.state.word .hostCr0 = 0x80050031 ∧ launched.state.word .guestCr0 = 0x80050031 ∧
      launched.record.savedCr0 = 0x100050010) ∧
    FixedBitsConsistent machine.msrs ∧ enabled.cr4 = 0x2000 := by
  have succeeds : (SimulatedProcessor.hardware.execute (fresh 0 0x1c000 0x10000 .empty {})
      demandingProcessor virtualize).outcome = .ok () := by rfl
  intro vcpu machine launched enabled
  have consistent : FixedBitsConsistent demandingProcessor.msrs :=
    ⟨by decide, by decide, by decide⟩
  have consistent' : FixedBitsConsistent machine.msrs := ⟨by decide, by decide, by decide⟩
  obtain ⟨adjusted, -, enables, -, ends⟩ :=
    virtualize_fixesBits SimulatedProcessor.registerFile vcpu demandingProcessor consistent
  obtain ⟨copied, saved, -⟩ := ends succeeds
  have cr0 : adjusted .cr0 = 0x80050031 := by
    rw [← enables .enabled, (enableVmx_adjusts ..).cr]
    decide
  obtain ⟨adjusted', -, enables', -⟩ :=
    virtualize_fixesBits Machine.registerFile vcpu machine consistent'
  have cr4 : adjusted' .cr4 = 0x2000 := by
    rw [← enables' .enabled, (enableVmx_adjusts ..).cr]
    decide
  exact ⟨⟨consistent, succeeds, (copied .cr0).1.trans cr0, (copied .cr0).2.trans cr0, saved⟩,
    consistent', (congrFun (enables' .enabled) .cr4).trans cr4⟩

end Vcpu

end VtxMonitor
