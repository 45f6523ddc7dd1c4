import VtxMonitor.Proofs.Exit.Incident
import VtxMonitor.Proofs.Vmcs.GuestArea

/-!
# Proofs/Exit/MsrWrites — where a WRMSR of the guest ends up

Six MSRs have a field in the guest-state area, which the next VM-entry loads them from.  Writing
the guest-state area puts the MSRs of the processor there (`word_writeGuestFields`), but **a WRMSR
of the guest only reaches the MSR of the processor**: the field keeps what it held
(`wrmsr_bypasses_guestField`).
-/

namespace VtxMonitor

open SimulatedProcessor (hardware)

/-! ## The MSRs in the guest-state area -/

/-- The MSRs that have a field in the guest-state area, with their fields. -/
def Msr.guestFields : List (Msr.Number × Vmcs.Field) :=
  [(fsBase, .guestFsBase), (gsBase, .guestGsBase), (debugCtl, .guestDebugCtl),
    (sysenterCs, .guestSysenterCs), (sysenterEsp, .guestSysenterEsp),
    (sysenterEip, .guestSysenterEip)]

variable {σ : Type} {hw : Hardware σ}

theorem Hardware.mem_guestTables_of_msr (hw : Hardware σ) (s : σ) {msr : Msr.Number}
    {field : Vmcs.Field} (listed : (msr, field) ∈ Msr.guestFields) :
    (field, hw.msr s msr) ∈ hw.guestTables s := by
  simp only [Msr.guestFields, List.mem_cons, Prod.mk.injEq, List.not_mem_nil, or_false] at listed
  rcases listed with ⟨rfl, rfl⟩ | ⟨rfl, rfl⟩ | ⟨rfl, rfl⟩ | ⟨rfl, rfl⟩ | ⟨rfl, rfl⟩ | ⟨rfl, rfl⟩ <;>
    simp [guestTables]

/-- **The guest's copy of an MSR is the one in the guest-state area**, where it is put from the MSR
of the processor. -/
theorem VmcsFrame.word_writeGuestFields (frame : VmcsFrame hw) {s : σ} (holds : frame.Holds s)
    {msr : Msr.Number} {field : Vmcs.Field} (listed : (msr, field) ∈ Msr.guestFields) :
    frame.word (hw.run Vmcs.writeGuestFields.run s).2 field = hw.msr s msr := by
  have stored : frame.word (hw.run Vmcs.writeGuestFields.run s).2 = _ :=
    (Vmcs.writeGuestFields_leads holds s (frame.shows_self holds)).2.word
  rw [stored]
  exact Vmcs.updateAll_guestTables (hw.mem_guestTables_of_msr s listed)

/-! ## Dispatching a WRMSR -/

/-- The scope of skipping an instruction of the guest. -/
def Scope.skip : Scope := ⟨(· = .guestRip), fun _ => False, .kept⟩

/-- The processor behind the handler of a WRMSR: the value is in the MSR of the processor. -/
def SimulatedProcessor.afterWrmsr (cpu : SimulatedProcessor) (regs : GuestRegisters) :
    SimulatedProcessor :=
  (cpu.record (.writeMsr (regs.low .rcx) regs.edxEax)).setMsr (regs.low .rcx) regs.edxEax

theorem SimulatedProcessor.msrs_afterWrmsr (cpu : SimulatedProcessor) (regs : GuestRegisters) :
    (cpu.afterWrmsr regs).msrs (regs.low .rcx) = regs.edxEax := update_self _ _ _

theorem Emulation.execute_wrmsr (regs : GuestRegisters) (cpu : SimulatedProcessor) :
    hardware.execute regs cpu wrmsr = ⟨.ok .incrementRip, regs, cpu.afterWrmsr regs⟩ := rfl

namespace ExitHandlers

section Wrmsr

variable {cpu : SimulatedProcessor} {regs : GuestRegisters} (current : cpu.currentVmcs.isSome)
  (entered : cpu.exitReason.entryFailure = false) (wrmsr : cpu.exitReason.basic = .wrmsr)
include current entered wrmsr

/-- Behind the handler of a WRMSR the dispatch writes at most the instruction pointer of the guest,
whether that fits or not. -/
theorem dispatch_wrmsr_confined :
    Confined .skip (cpu.afterWrmsr regs)
      (hardware.execute regs cpu defaults.dispatch).state := by
  have registered : defaults.get? cpu.exitReason.basic = some Emulation.wrmsr := by
    rw [wrmsr]
    rfl
  have ended := congrArg Prod.snd (observe_dispatch_of_get regs current entered registered)
  rw [show hardware.execute regs cpu defaults.dispatch = _ from ended, serve,
    Hardware.execute_bind, Emulation.execute_wrmsr, Execution.andThen_ok, if_pos rfl]
  have within : advanceRip.run.Only (Operation.Within .skip) := VmExit.advanceRip_within rfl
  refine Program.Guarantees.confined (Program.Only.guarantees ?_ _)
  exact (within.start_procedure regs).start_bind fun _ _ => trivial

/-- **A WRMSR of the guest does not reach the field of its MSR.**  For an MSR that has a field in
the guest-state area, the dispatch stores the value in the MSR of the processor and leaves the
field alone, so the field holds the value behind it exactly if it held the value before. -/
theorem wrmsr_bypasses_guestField {field : Vmcs.Field}
    (listed : (regs.low .rcx, field) ∈ Msr.guestFields) :
    let ended := hardware.execute regs cpu defaults.dispatch
    ended.state.msrs (regs.low .rcx) = regs.edxEax ∧
      ended.state.word field = cpu.word field ∧
      (ended.state.word field = regs.edxEax ↔ cpu.word field = regs.edxEax) := by
  have confined : Confined .skip (cpu.afterWrmsr regs) _ :=
    dispatch_wrmsr_confined current entered wrmsr
  have others : Msr.guestFields.all fun entry =>
      entry.2 ≠ .guestRip ∧ entry.2 ≠ .primaryControls := by decide
  obtain ⟨notRip, notPrimary⟩ := of_decide_eq_true (List.all_eq_true.1 others _ listed)
  have written := (confined.msrs (regs.low .rcx) id).trans (cpu.msrs_afterWrmsr regs)
  have kept : (hardware.execute regs cpu defaults.dispatch).state.word field = cpu.word field :=
    SimulatedProcessor.word_congr (confined.fields field notRip notPrimary)
  exact ⟨written, kept, by rw [kept]⟩

end Wrmsr

/-- A WRMSR that writes 0x1000 to IA32_SYSENTER_ESP leaves the field as it was stored. -/
theorem wrmsr_bypasses_guestField_sysenterEsp :
    let cpu := (SimulatedProcessor.reset.enterVmxWithCurrentVmcs.simulateExit 32 0x5000 2).setField
      .guestSysenterEsp 0x2000
    let regs := (GuestRegisters.zero.set .rcx 0x175).set .rax 0x1000
    let ended := hardware.execute regs cpu defaults.dispatch
    ended.state.msrs Msr.sysenterEsp = 0x1000 ∧ ended.state.word .guestSysenterEsp = 0x2000 := by
  intro cpu regs ended
  have current : cpu.currentVmcs.isSome := rfl
  have listed : (regs.low .rcx, Vmcs.Field.guestSysenterEsp) ∈ Msr.guestFields := by decide
  obtain ⟨written, kept, -⟩ :=
    wrmsr_bypasses_guestField current (by decide) (by decide) listed
  have value : regs.edxEax = 0x1000 := by decide
  exact ⟨written.trans value, kept⟩

/-- The guest of a reset processor writes 0x1000 to IA32_FS_BASE and goes on behind the WRMSR, but
the guest-state area keeps the 0x400000 that it was launched with. -/
theorem wrmsr_lost_fsBase :
    let launched := (hardware.run Vmcs.writeGuestFields.run
      SimulatedProcessor.reset.enterVmxWithCurrentVmcs).2
    let regs := (GuestRegisters.zero.set .rcx 0xc0000100).set .rax 0x1000
    let ended := hardware.execute regs (launched.simulateExit 32 0x5000 2) defaults.dispatch
    regs.edxEax = 0x1000 ∧ ended.state.msrs Msr.fsBase = 0x1000 ∧
      ended.state.word .guestRip = 0x5002 ∧ ended.state.word .guestFsBase = 0x400000 := by
  decide +kernel

end ExitHandlers

end VtxMonitor
