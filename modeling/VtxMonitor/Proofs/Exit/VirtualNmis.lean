import VtxMonitor.Proofs.Control.Writers
import VtxMonitor.Proofs.Exit.Containment
import VtxMonitor.Proofs.Exit.NmiAccounting
import VtxMonitor.Proofs.Vcpu.ControlWords
import VtxMonitor.Proofs.Vcpu.Outcome

/-!
# Proofs/Exit/VirtualNmis — NMI-window exiting needs virtual NMIs

VM-entry requires that NMI-window exiting is only on together with NMI exiting and virtual NMIs.
The pin-based word is settled by the bring-up, which drops what the processor does not allow, and no
incident changes it afterwards; the window is opened by every non-maskable interrupt, as long as the
primary word is permitted with it (`handled_opensIfAllowed`).  **So what VM-entry requires holds
along every run exactly on the processors that allow both pin-based bits, or do not allow the
window** (`virtualNmis_iff`).
-/

namespace VtxMonitor

open SimulatedProcessor (hardware)

/-! ## The bits -/

/-- Whether a pin-based control word has NMI exiting and virtual NMIs. -/
def PinBasedControls.virtualizesNmis (pin : BitVec 32) : Bool :=
  nmiExiting.isSetIn pin && virtualNmis.isSetIn pin

theorem PinBasedControls.virtualizesNmis_eq (pin : BitVec 32) :
    virtualizesNmis pin = (pin.getLsbD 3 && pin.getLsbD 5) := by
  rw [virtualizesNmis, Vcpu.isSetIn_eq_getLsbD _ (by decide),
    Vcpu.isSetIn_eq_getLsbD _ (by decide)]
  rfl

theorem NmiWindow.isOpen_eq (primary : BitVec 32) : isOpen primary = primary.getLsbD 22 :=
  Vcpu.isSetIn_eq_getLsbD _ (by decide) primary

theorem NmiWindow.getLsbD_update_true (primary : BitVec 32) (i : Nat) :
    (update true primary).getLsbD i = (primary.getLsbD i || decide (22 = i)) := by
  have mask : PrimaryControls.nmiWindowExiting.mask = BitVec.twoPow 32 22 := rfl
  rw [update, if_pos rfl, mask, BitVec.getLsbD_or, BitVec.getLsbD_twoPow]
  rfl

namespace AllowedSettings

variable {settings : AllowedSettings} {primary : BitVec 32}

/-- A permitted word has the window open only if that is allowed. -/
theorem isOpen_allowed1 (permitted : settings.permits primary = true)
    (opened : NmiWindow.isOpen primary = true) : NmiWindow.isOpen settings.allowed1 = true := by
  rw [NmiWindow.isOpen_eq] at opened ⊢
  exact (permits_iff.1 permitted).2 22 opened

/-- Where the window is allowed, a permitted word stays permitted with it. -/
theorem permits_update_true (permitted : settings.permits primary = true)
    (allowed : NmiWindow.isOpen settings.allowed1 = true) :
    settings.permits (NmiWindow.update true primary) = true := by
  obtain ⟨mandatory, inside⟩ := permits_iff.1 permitted
  refine permits_iff.2 ⟨fun i set => ?_, fun i set => ?_⟩
  · rw [NmiWindow.getLsbD_update_true, mandatory i set, Bool.true_or]
  · rw [NmiWindow.getLsbD_update_true, Bool.or_eq_true, decide_eq_true_eq] at set
    rcases set with set | rfl
    · exact inside i set
    · exact (NmiWindow.isOpen_eq settings.allowed1).symm.trans allowed

end AllowedSettings

/-! ## What a processor allows and does -/

namespace SimulatedProcessor

variable {cpu cpu' cpu'' : SimulatedProcessor}

/-- The pin-based control word of the current VMCS, as it is read back. -/
def pinControls (cpu : SimulatedProcessor) : BitVec 32 := (cpu.word .pinBasedControls).setWidth 32

/-- Whether the processor allows NMI exiting and virtual NMIs. -/
def allowsVirtualNmis (cpu : SimulatedProcessor) : Bool :=
  PinBasedControls.virtualizesNmis (cpu.allowedSettings .pinBased).allowed1

/-- Whether the processor allows NMI-window exiting. -/
def allowsWindow (cpu : SimulatedProcessor) : Bool :=
  NmiWindow.isOpen (cpu.allowedSettings .primary).allowed1

/-- NMI-window exiting is turned on at most where the processor allows it. -/
def OpensIfAllowed (cpu cpu' : SimulatedProcessor) : Prop :=
  cpu'.nmiWindowOpen = true → cpu.nmiWindowOpen = true ∨ cpu.allowsWindow = true

theorem OpensIfAllowed.of_kept (kept : cpu'.nmiWindowOpen = cpu.nmiWindowOpen) :
    OpensIfAllowed cpu cpu' := fun opened => .inl (kept.symm.trans opened)

theorem OpensIfAllowed.trans (first : OpensIfAllowed cpu cpu')
    (same : cpu'.allowedSettings = cpu.allowedSettings) (second : OpensIfAllowed cpu' cpu'') :
    OpensIfAllowed cpu cpu'' := by
  intro opened
  rcases second opened with before | allowed
  · exact first before
  · rw [allowsWindow, same] at allowed
    exact .inr allowed

/-- Turning NMI-window exiting on or off where the new word is permitted. -/
theorem run_setExiting_of_permits (current : cpu.currentVmcs.isSome) {enabled : Bool}
    (permitted : (cpu.allowedSettings .primary).permits
      (NmiWindow.update enabled cpu.primaryControls) = true) :
    hardware.run (NmiWindow.setExiting enabled).run cpu = (.ok (), cpu.withWindow enabled) := by
  rw [NmiWindow.setExiting, Hardware.run_procedure_ok hardware (run_readPrimary current)]
  exact run_writeExact current permitted

/-- A word that is not permitted is not written. -/
theorem run_setExiting_refused (current : cpu.currentVmcs.isSome) {enabled : Bool}
    (refused : (cpu.allowedSettings .primary).permits
      (NmiWindow.update enabled cpu.primaryControls) = false) :
    (hardware.run (NmiWindow.setExiting enabled).run cpu).2 = cpu := by
  have denied : ¬(hardware.run (AllowedSettings.read .primary) cpu).1.permits
      (NmiWindow.update enabled cpu.primaryControls) = true := by
    rw [run_readSettings, refused]
    exact Bool.false_ne_true
  rw [NmiWindow.setExiting, Hardware.run_procedure_ok hardware (run_readPrimary current)]
  exact VmxControl.run_writeExact_refused (fun _ _ => rfl) denied

theorem setExiting_opensIfAllowed (current : cpu.currentVmcs.isSome) (enabled : Bool) :
    OpensIfAllowed cpu (hardware.run (NmiWindow.setExiting enabled).run cpu).2 := by
  cases permitted : (cpu.allowedSettings .primary).permits
      (NmiWindow.update enabled cpu.primaryControls) with
  | false =>
      rw [run_setExiting_refused current permitted]
      exact .of_kept rfl
  | true =>
      rw [run_setExiting_of_permits current permitted]
      intro opened
      rw [nmiWindowOpen_withWindow] at opened
      obtain rfl := opened
      exact .inr (AllowedSettings.isOpen_allowed1 permitted (NmiWindow.isOpen_update true _))

end SimulatedProcessor

open SimulatedProcessor (OpensIfAllowed)

variable {regs : GuestRegisters} {cpu : SimulatedProcessor}

/-! ## Incidents -/

namespace ExitHandlers

/-- A handler that goes on at the same instruction leaves what its program leaves. -/
theorem state_serve_resume (procedure : Procedure Unit) :
    (hardware.execute regs cpu
        (serve (liftM procedure >>= fun _ => (pure .resume : Emulation ExitType)))).state
      = (hardware.run procedure.run cpu).2 := by
  have ended : ∃ outcome, outcome ≠ .ok .incrementRip ∧
      hardware.execute regs cpu (liftM procedure >>= fun _ => (pure .resume : Emulation ExitType))
        = ⟨outcome, regs, (hardware.run procedure.run cpu).2⟩ := by
    rw [Hardware.execute_bind, Hardware.execute_procedure]
    rcases hardware.run procedure.run cpu with ⟨error | value, state⟩
    · exact ⟨.error error, nofun, rfl⟩
    · exact ⟨.ok .resume, nofun, rfl⟩
  obtain ⟨outcome, stays, ended⟩ := ended
  rw [execute_serve_of_ne (by rw [ended]; exact stays), ended]

end ExitHandlers

/-- Passing an event on opens the window at most where that is allowed. -/
theorem ExitInterruption.forward_opensIfAllowed (current : cpu.currentVmcs.isSome)
    (info : ExitInterruption) : OpensIfAllowed cpu (hardware.run info.forward.run cpu).2 := by
  cases nmi : info.isNmi with
  | true =>
      rw [ExitInterruption.forward, nmi, if_pos rfl, Hardware.run_procedure_program]
      exact SimulatedProcessor.setExiting_opensIfAllowed current true
  | false =>
      obtain ⟨state, forwarded, kept⟩ := execute_forward_other .zero current nmi
      rw [Hardware.execute_procedure] at forwarded
      rw [show (hardware.run info.forward.run cpu).2 = state from
        congrArg Execution.state forwarded]
      exact .of_kept kept

theorem NmiWindow.deliver_opensIfAllowed (current : cpu.currentVmcs.isSome) :
    OpensIfAllowed cpu (hardware.run NmiWindow.deliver.run cpu).2 := by
  have mem : Vmcs.Field.entryInterruption ∈ emulatedFields := by decide
  have injected : Confined (.emulation (fun _ => False) .kept) cpu cpu.withNmiInjected :=
    .setField cpu mem (by decide) _
  have current' : cpu.withNmiInjected.currentVmcs.isSome := current
  rw [NmiWindow.deliver, Hardware.run_procedure_ok hardware
    (SimulatedProcessor.run_inject_nmi current)]
  exact (OpensIfAllowed.of_kept injected.window).trans rfl
    (SimulatedProcessor.setExiting_opensIfAllowed current' false)

/-- Handling an exit opens the window at most where that is allowed. -/
theorem VmExit.dispatched_opensIfAllowed (exit : VmExit) (current : cpu.currentVmcs.isSome) :
    OpensIfAllowed cpu (exit.dispatched cpu).state := by
  have stopped : OpensIfAllowed cpu (cpu.stopAt exit) := .of_kept (exit.nmiWindowOpen_stopAt cpu)
  have current' : (cpu.stopAt exit).currentVmcs.isSome := current
  refine stopped.trans rfl ?_
  rcases ExitHandlers.defaults.dispatch_cases exit.registers (cpu.stopAt exit) with
    ⟨-, unchanged⟩ | ⟨handler, registered, ended⟩
  · rw [dispatched, unchanged]
    exact .of_kept rfl
  rw [dispatched, ended]
  rcases ExitHandlers.defaults_cases registered with ⟨-, rfl⟩ | ⟨-, rfl⟩ | ⟨-, tame⟩
  · rw [Emulation.nmiWindow, ExitHandlers.state_serve_resume]
    exact NmiWindow.deliver_opensIfAllowed current'
  · have shape : Emulation.exceptionOrNmi
        = liftM (ExitInterruption.read >>= ExitInterruption.forward) >>= fun _ => pure .resume := by
      rw [Procedure.liftM_bind, bind_assoc]
      rfl
    rw [shape, ExitHandlers.state_serve_resume,
      Hardware.run_procedure_ok hardware (run_readInterruption current')]
    exact ExitInterruption.forward_opensIfAllowed current' _
  · have kept : Confined (.emulation (fun _ => True) .kept) (cpu.stopAt exit) _ :=
      (tame (fun _ => True) exit.registers fun _ => trivial).confined (cpu.stopAt exit)
    exact .of_kept (VmExit.serve_confined (Confined.of_emulation kept)).window

namespace Incident

/-- **An incident opens the window at most where that is allowed.** -/
theorem handled_opensIfAllowed (incident : Incident) (current : cpu.currentVmcs.isSome) :
    OpensIfAllowed cpu (incident.handled cpu).2 := by
  cases incident with
  | interrupt frame =>
      rw [handled]
      by_cases nmi : frame.vector = nmiVector.setWidth 64
      · rw [TrapFrame.handle, if_pos nmi]
        exact SimulatedProcessor.setExiting_opensIfAllowed current true
      · rw [SimulatedProcessor.run_handle_other cpu nmi]
        exact .of_kept rfl
  | exit vmExit => exact vmExit.dispatched_opensIfAllowed current

/-- Host interrupts, and the exits of exceptions, interrupts of the guest and the NMI window. -/
def IsEvent : Incident → Prop
  | .interrupt _ => True
  | .exit vmExit => vmExit.reason.basic = .exceptionOrNmi ∨ vmExit.reason.basic = .nmiWindow

/-- Events write no MSR. -/
theorem IsEvent.not_writes {incident : Incident} (event : incident.IsEvent) (msr : Msr.Number) :
    ¬incident.Writes msr := by
  cases incident with
  | interrupt frame => exact id
  | exit vmExit =>
      rintro ⟨wrmsr, -⟩
      rcases event with exception | window
      · exact absurd (wrmsr.symm.trans exception) (by decide)
      · exact absurd (wrmsr.symm.trans window) (by decide)

/-! ## Runs of events -/

variable {incidents : List Incident}

/-- **Events leave the current VMCS, what the processor allows and the pin-based word alone.** -/
theorem afterAll_events (events : ∀ incident ∈ incidents, incident.IsEvent)
    (cpu : SimulatedProcessor) :
    (cpu.afterAll incidents).currentVmcs = cpu.currentVmcs ∧
      (cpu.afterAll incidents).allowedSettings = cpu.allowedSettings ∧
      (cpu.afterAll incidents).pinControls = cpu.pinControls := by
  have confined := afterAll_confined incidents cpu
  have msrs : ∀ msr, (cpu.afterAll incidents).msrs msr = cpu.msrs msr := fun msr =>
    confined.msrs msr fun ⟨incident, mem, writes⟩ => (events incident mem).not_writes msr writes
  have pin : Vmcs.Field.pinBasedControls.Guarded := .inr (by decide)
  exact ⟨confined.currentVmcs, SimulatedProcessor.allowedSettings_congr fun msr _ => msrs msr,
    congrArg (BitVec.setWidth 32)
      (SimulatedProcessor.word_congr (confined.fields _ pin.free pin.ne_primary))⟩

/-- **A run of events opens the window at most where that is allowed.** -/
theorem afterAll_opensIfAllowed (events : ∀ incident ∈ incidents, incident.IsEvent)
    (current : cpu.currentVmcs.isSome) : OpensIfAllowed cpu (cpu.afterAll incidents) := by
  induction incidents generalizing cpu with
  | nil => exact .of_kept rfl
  | cons incident rest ih =>
      have one : ∀ only ∈ [incident], only.IsEvent := fun only mem =>
        events only (List.mem_singleton.1 mem ▸ List.mem_cons_self)
      obtain ⟨vmcs, settings, -⟩ := afterAll_events one cpu
      have current' : (incident.handled cpu).2.currentVmcs.isSome := vmcs ▸ current
      exact (handled_opensIfAllowed incident current).trans settings
        (ih (fun later mem => events later (List.mem_cons_of_mem _ mem)) current')

end Incident

/-! ## Launched guests -/

/-- The pin-based word that is asked for has both bits, so what is left of them is what is
allowed. -/
theorem virtualizesNmis_adjustedWord (settings : VmxControl → AllowedSettings) :
    PinBasedControls.virtualizesNmis (Vmcs.adjustedWord settings .pinBased)
      = PinBasedControls.virtualizesNmis (settings .pinBased).allowed1 := by
  have exiting : (Vmcs.requestedControls .pinBased).getLsbD 3 = true := by decide
  have virtual : (Vmcs.requestedControls .pinBased).getLsbD 5 = true := by decide
  rw [PinBasedControls.virtualizesNmis_eq, PinBasedControls.virtualizesNmis_eq, Vmcs.adjustedWord,
    AllowedSettings.getLsbD_adjust, AllowedSettings.getLsbD_adjust, exiting, virtual, Bool.true_or,
    Bool.true_or, Bool.true_and, Bool.true_and]

section Launched

variable {vcpu : Vcpu} (succeeds : (hardware.execute vcpu cpu Vcpu.virtualize).outcome = .ok ())
include succeeds

/-- The control words of a launched guest, as they are read back. -/
theorem setWidth_word_virtualize (control : VmxControl) :
    ((hardware.execute vcpu cpu Vcpu.virtualize).state.word control.field).setWidth 32
      = Vmcs.adjustedWord cpu.allowedSettings control := by
  obtain ⟨-, -, words⟩ := Vcpu.word_virtualize succeeds
  rw [words control]
  exact BitVec.setWidth_setWidth_of_le _ (by decide)

theorem allowsWindow_virtualize :
    (hardware.execute vcpu cpu Vcpu.virtualize).state.allowsWindow = cpu.allowsWindow := by
  rw [SimulatedProcessor.allowsWindow, (Vcpu.word_virtualize succeeds).2.1]
  rfl

theorem permits_virtualize (consistent : (cpu.allowedSettings .primary).Consistent) :
    let launched := (hardware.execute vcpu cpu Vcpu.virtualize).state
    (launched.allowedSettings .primary).permits launched.primaryControls = true := by
  intro launched
  rw [(Vcpu.word_virtualize succeeds).2.1, show launched.primaryControls = _ from
    setWidth_word_virtualize succeeds .primary]
  exact AllowedSettings.permits_adjust consistent _

/-- **Along every run of events a launched guest has virtual NMIs exactly if they are allowed.** -/
theorem virtualizesNmis_afterAll {incidents : List Incident}
    (events : ∀ incident ∈ incidents, incident.IsEvent) :
    PinBasedControls.virtualizesNmis
        ((hardware.execute vcpu cpu Vcpu.virtualize).state.afterAll incidents).pinControls
      = cpu.allowsVirtualNmis := by
  have launched := setWidth_word_virtualize succeeds .pinBased
  rw [(Incident.afterAll_events events _).2.2, SimulatedProcessor.pinControls,
    show Vmcs.Field.pinBasedControls = VmxControl.field .pinBased from rfl, launched,
    virtualizesNmis_adjustedWord]
  rfl

/-- **A non-maskable interrupt opens the window of a launched guest wherever that is allowed**,
whether virtual NMIs are in force or not. -/
theorem nmiWindowOpen_of_interrupt (consistent : (cpu.allowedSettings .primary).Consistent)
    (allowed : cpu.allowsWindow = true) :
    ((hardware.execute vcpu cpu Vcpu.virtualize).state.afterAll
      [.interrupt { vector := 2 }]).nmiWindowOpen = true := by
  have opens := AllowedSettings.permits_update_true (permits_virtualize succeeds consistent)
    ((allowsWindow_virtualize succeeds).trans allowed)
  have handled : (hardware.execute vcpu cpu Vcpu.virtualize).state.afterAll
      [.interrupt { vector := 2 }]
        = (hardware.execute vcpu cpu Vcpu.virtualize).state.withWindow true :=
    congrArg Prod.snd
      (SimulatedProcessor.run_setExiting_of_permits (Vcpu.word_virtualize succeeds).1 opens)
  rw [handled]
  exact SimulatedProcessor.nmiWindowOpen_withWindow _ true

/-- **Where it is not allowed, no run of events opens the window of a launched guest.** -/
theorem allowsWindow_of_afterAll (consistent : (cpu.allowedSettings .primary).Consistent)
    {incidents : List Incident} (events : ∀ incident ∈ incidents, incident.IsEvent)
    (opened : ((hardware.execute vcpu cpu Vcpu.virtualize).state.afterAll
      incidents).nmiWindowOpen = true) : cpu.allowsWindow = true := by
  have current := (Vcpu.word_virtualize succeeds).1
  rw [← allowsWindow_virtualize succeeds]
  rcases Incident.afterAll_opensIfAllowed events current opened with before | allowed
  · exact AllowedSettings.isOpen_allowed1 (permits_virtualize succeeds consistent) before
  · exact allowed

end Launched

theorem isEvent_of_mem_interrupt {frame : TrapFrame} :
    ∀ incident ∈ [Incident.interrupt frame], incident.IsEvent :=
  fun _ mem => List.mem_singleton.1 mem ▸ trivial

/-- **NMI-window exiting is only on with virtual NMIs, along every run of a launched guest, exactly
if the processor allows NMI exiting and virtual NMIs, or does not allow NMI-window exiting.**  The
runs are those of host interrupts and of exits for exceptions, interrupts and the NMI window. -/
theorem virtualNmis_iff (vcpu : Vcpu) (cpu : SimulatedProcessor)
    (consistent : ∀ control, (cpu.allowedSettings control).Consistent)
    (succeeds : (hardware.execute vcpu cpu Vcpu.virtualize).outcome = .ok ()) :
    let launched := (hardware.execute vcpu cpu Vcpu.virtualize).state
    (∀ incidents : List Incident, (∀ incident ∈ incidents, incident.IsEvent) →
      (launched.afterAll incidents).nmiWindowOpen = true →
        PinBasedControls.virtualizesNmis (launched.afterAll incidents).pinControls = true) ↔
      cpu.allowsVirtualNmis = true ∨ cpu.allowsWindow = false := by
  intro launched
  constructor
  · intro holds
    cases allowed : cpu.allowsWindow with
    | false => exact .inr rfl
    | true =>
        have reached := holds _ isEvent_of_mem_interrupt
          (nmiWindowOpen_of_interrupt succeeds (consistent .primary) allowed)
        exact .inl ((virtualizesNmis_afterAll succeeds isEvent_of_mem_interrupt).symm.trans reached)
  · rintro (virtual | closed) incidents events opened
    · exact (virtualizesNmis_afterAll succeeds events).trans virtual
    · have allowed := allowsWindow_of_afterAll succeeds (consistent .primary) events opened
      exact absurd (closed.symm.trans allowed) (by decide)

/-- After reset both pin-based bits are allowed, and a pending interrupt finds virtual NMIs in
force. -/
theorem virtualNmis_iff_reset :
    let ended := hardware.execute (.fresh 0 0x1c000 0x10000 .empty {}) .reset Vcpu.virtualize
    let reached := ended.state.afterAll [.interrupt { vector := 2 }]
    ended.outcome = .ok () ∧ (reached.nmiWindowOpen = true →
      PinBasedControls.virtualizesNmis reached.pinControls = true) := by
  intro ended reached
  have consistent : ∀ control,
      (SimulatedProcessor.reset.allowedSettings control).Consistent := fun control => by
    cases control <;> decide
  have succeeds : ended.outcome = .ok () := Vcpu.outcome_eq_verdict.trans rfl
  have allowed : SimulatedProcessor.reset.allowsVirtualNmis = true := by decide
  exact ⟨succeeds, (virtualNmis_iff _ .reset consistent succeeds).2 (.inl allowed) _
    isEvent_of_mem_interrupt⟩

/-- Without virtual NMIs among the allowed pin-based bits, a launch succeeds and an interrupt of the
host opens the window all the same. -/
theorem nmiWindow_without_virtualNmis :
    let cpu := SimulatedProcessor.reset.setMsr Msr.truePinBasedCtls 0x000000df00000016
    let ended := hardware.execute (.fresh 0 0x1c000 0x10000 .empty {}) cpu Vcpu.virtualize
    let reached := ended.state.afterAll [.interrupt { vector := 2 }]
    (∀ control, (cpu.allowedSettings control).Consistent) ∧ ended.outcome = .ok () ∧
      reached.nmiWindowOpen = true ∧
      PinBasedControls.virtualizesNmis reached.pinControls = false := by
  intro cpu ended reached
  have consistent : ∀ control, (cpu.allowedSettings control).Consistent := fun control => by
    cases control <;> decide
  have verdict : (Vcpu.fresh 0 0x1c000 0x10000 .empty {}).verdict
      (SimulatedProcessor.reset.setMsr Msr.truePinBasedCtls 0x000000df00000016) = .ok () := by
    rw [Vcpu.verdict]
    rfl
  have succeeds : ended.outcome = .ok () := Vcpu.outcome_eq_verdict.trans verdict
  have window : cpu.allowsWindow = true := by decide
  have virtual : cpu.allowsVirtualNmis = false := by decide
  exact ⟨consistent, succeeds, nmiWindowOpen_of_interrupt succeeds (consistent .primary) window,
    (virtualizesNmis_afterAll succeeds isEvent_of_mem_interrupt).trans virtual⟩

end VtxMonitor
