import VtxMonitor.Proofs.Exit.Handlers

/-!
# Proofs/Exit/Preemption — a non-maskable interrupt that arrives while an exit is handled

Handlers and host interrupts read and write the same primary control word, and nothing keeps them
apart.  Between any two requests of a handler a non-maskable interrupt turns NMI-window exiting on,
and **every default handler but one leaves it on** (`nmi_remembered_iff`).  The exception is the
handler that delivers the remembered interrupt: it turns the window off with its last request, so an
interrupt that arrives behind the injection is forgotten (`nmi_forgotten_behind_injection`).
-/

namespace VtxMonitor

open SimulatedProcessor (hardware)

variable {α : Type} {regs : GuestRegisters} {base : SimulatedProcessor}

/-- Bounds that let NMI-window exiting change in a given way, and no MSR at all. -/
abbrev Windowed (use : WindowUse) : SimulatedProcessor → SimulatedProcessor → Prop :=
  Confined (.emulation (fun _ => False) use)

/-! ## The interruption -/

/-- Within the bounds, a non-maskable interrupt finds both control words permitted and turns
NMI-window exiting on. -/
theorem handle_nmi_opens (switchable : base.WindowSwitchable) {frame : TrapFrame}
    (nmi : frame.vector = nmiVector.setWidth 64) {use : WindowUse}
    (allowed : ∀ before, use.Allows before true) {cpu : SimulatedProcessor}
    (related : Windowed use base cpu) :
    Windowed use cpu (hardware.run frame.handle.run cpu).2 ∧
      (hardware.run frame.handle.run cpu).2.nmiWindowOpen = true := by
  have switchable' : cpu.WindowSwitchable := related.switchable switchable fun _ _ => id
  rw [SimulatedProcessor.run_handle_nmi switchable' nmi]
  exact ⟨.setPrimary cpu rfl (allowed _), cpu.nmiWindowOpen_withWindow true⟩

/-! ## Handlers that leave the window on -/

/-- A handler that leaves MSRs alone and turns NMI-window exiting off nowhere. -/
theorem interrupted_opens (switchable : base.WindowSwitchable) {frame : TrapFrame}
    (nmi : frame.vector = nmiVector.setWidth 64) {program : Program α}
    (guarantees : program.Guarantees hardware (Windowed .opened) base) (point : Nat) :
    (hardware.run (program.interruptedAt frame.handle.run point) base).2.nmiWindowOpen = true := by
  refine guarantees.run_interruptedAt (P := fun cpu => cpu.nmiWindowOpen = true) Confined.refl
    Confined.trans ?_ ?_ point (.refl base)
  · exact fun related => related.window
  · exact fun _ related => handle_nmi_opens switchable nmi WindowUse.opened_allows related

/-- WRMSR may write the MSRs that the interruption depends on, but only with its last request. -/
theorem wrmsr_interrupted_opens (switchable : base.WindowSwitchable) {frame : TrapFrame}
    (nmi : frame.vector = nmiVector.setWidth 64) {point : Nat} (running : point < 2) :
    (hardware.run ((Emulation.wrmsr.start regs).interruptedAt frame.handle.run point)
      base).2.nmiWindowOpen = true := by
  have opened := base.nmiWindowOpen_withWindow true
  obtain rfl | rfl : point = 0 ∨ point = 1 := by omega
  · rw [Program.run_interruptedAt_zero, SimulatedProcessor.run_handle_nmi switchable nmi]
    exact opened
  · change (hardware.run (Program.interruptedAt _ frame.handle.run 0) base).2.nmiWindowOpen = true
    rw [Program.run_interruptedAt_zero, SimulatedProcessor.run_handle_nmi switchable nmi]
    exact opened

/-! ## The handler that turns the window off -/

section Closing

variable (switchable : base.WindowSwitchable) {P : SimulatedProcessor → Prop}

theorem write_bind_concludes (current : base.currentVmcs.isSome) {field : Vmcs.Field}
    {value : Word} {next : Unit → Procedure α}
    (rest : (next ()).run.Concludes hardware (Windowed .switched) base P) :
    (Vmcs.write field value >>= next).run.Concludes hardware (Windowed .switched) base P := by
  intro s related
  have current' : s.currentVmcs.isSome := related.currentVmcs ▸ current
  have written : hardware.answer (.vmwrite field (.word value)) s = _ :=
    SimulatedProcessor.answer_write current' field value
  rw [written]
  exact .inr rest

theorem read_bind_concludes (current : base.currentVmcs.isSome) {field : Vmcs.Field}
    {next : Word → Procedure α}
    (rest : ∀ s, Windowed .switched base s →
      (next (s.word field)).run.Concludes hardware (Windowed .switched) base P) :
    (Vmcs.read field >>= next).run.Concludes hardware (Windowed .switched) base P := by
  intro s related
  have read : (hardware.answer (.vmread field) s).1 = .ok (s.word field) :=
    SimulatedProcessor.vmread_of_current (related.currentVmcs ▸ current) field
  rw [read]
  exact .inr (rest s related)

/-- The two capability MSRs are read from two states, but both agree on all MSRs with the first. -/
theorem readSettings_bind_concludes {control : VmxControl}
    {next : AllowedSettings → Procedure α}
    (rest : (next (base.allowedSettings control)).run.Concludes hardware (Windowed .switched) base
      P) :
    (liftM (AllowedSettings.read control) >>= next).run.Concludes hardware (Windowed .switched)
      base P := by
  refine fun s related => .inr fun s' related' => .inr ?_
  have settings : AllowedSettings.ofCapability (s'.msrs (control.capabilityMsr
      (VmxBasic.mk (s.msrs Msr.vmxBasic)).trueControls)) = base.allowedSettings control := by
    rw [related.msrs _ id, related'.msrs _ id, SimulatedProcessor.ofCapability_msrs]
  change (next (AllowedSettings.ofCapability (s'.msrs (control.capabilityMsr
    (VmxBasic.mk (s.msrs Msr.vmxBasic)).trueControls)))).run.Concludes _ _ _ _
  rw [settings]
  exact rest

include switchable

/-- Turning NMI-window exiting off ends with it turned off, whatever happens before the last
request: the word that is written then was read long ago. -/
theorem setExiting_concludes :
    (NmiWindow.setExiting false).run.Concludes hardware (Windowed .switched) base
      (fun cpu => cpu.nmiWindowOpen = false) := by
  rw [NmiWindow.setExiting_eq]
  refine read_bind_concludes switchable.current fun s related => ?_
  refine readSettings_bind_concludes ?_
  have same : NmiWindow.update false ((s.word .primaryControls).setWidth 32)
      = NmiWindow.update false base.primaryControls := NmiWindow.update_congr related.others false
  rw [same, if_pos (switchable.permitted false)]
  intro s' related'
  have current : s'.currentVmcs.isSome := related'.currentVmcs ▸ switchable.current
  have written : hardware.answer (.vmwrite .primaryControls (.word
      ((NmiWindow.update false base.primaryControls).setWidth 64))) s' = _ :=
    SimulatedProcessor.answer_write current _ _
  refine .inl ⟨⟨_, rfl⟩, ?_⟩
  change (hardware.answer (.vmwrite .primaryControls (.word _)) s').2.nmiWindowOpen = false
  rw [written]
  exact s'.nmiWindowOpen_setField false _

theorem nmiWindow_concludes (regs : GuestRegisters) :
    (Emulation.nmiWindow.start regs).Concludes hardware (Windowed .switched) base
      (fun cpu => cpu.nmiWindowOpen = false) := by
  have delivered : NmiWindow.deliver.run.Concludes hardware (Windowed .switched) base
      (fun cpu => cpu.nmiWindowOpen = false) :=
    write_bind_concludes switchable.current (setExiting_concludes switchable)
  rw [Emulation.nmiWindow, Fallible.start_bind, Fallible.start_procedure]
  refine (delivered.bind_done fun _ => ⟨_, rfl⟩).bind_done fun ended => ?_
  rcases ended with ⟨_ | _, record⟩ <;> exact ⟨_, rfl⟩

end Closing

/-! ## All handlers -/

/-- **A non-maskable interrupt that arrives before the last request of a default handler is
remembered unless that handler is the one that delivers the remembered interrupt**: that one ends
with NMI-window exiting off, wherever the new interrupt arrived. -/
theorem nmi_remembered_iff {reason : BasicExitReason} {handler : ExitHandler}
    (registered : ExitHandlers.defaults.get? reason = some handler) (regs : GuestRegisters)
    {cpu : SimulatedProcessor} (switchable : cpu.WindowSwitchable) {frame : TrapFrame}
    (nmi : frame.vector = nmiVector.setWidth 64) {point : Nat}
    (running : point < (hardware.stepsOf regs cpu handler).length) :
    (hardware.run ((handler.start regs).interruptedAt frame.handle.run point)
        cpu).2.nmiWindowOpen = true ↔ reason ≠ .nmiWindow := by
  by_cases window : reason = .nmiWindow
  · subst window
    obtain rfl : Emulation.nmiWindow = handler := Option.some.inj registered
    have keeps : ∀ s, Windowed .switched cpu s →
        Windowed .switched s (hardware.run frame.handle.run s).2 := fun s related =>
      (handle_nmi_opens switchable nmi (WindowUse.switched_allows · true) related).1
    have closed := (nmiWindow_concludes switchable regs).run_interruptedAt
      (R := Windowed .switched) Confined.trans
      (Emulation.nmiWindow_guarantees (WindowUse.switched_allows · false) regs cpu) keeps
      (.refl cpu) running
    simp [closed]
  · refine iff_of_true ?_ window
    by_cases wrmsr : reason = .wrmsr
    · subst wrmsr
      obtain rfl : Emulation.wrmsr = handler := Option.some.inj registered
      exact wrmsr_interrupted_opens switchable nmi running
    · refine interrupted_opens switchable nmi ?_ point
      exact ExitHandlers.defaults_guarantees registered
        ⟨wrmsr, fun _ => WindowUse.opened_allows, fun isWindow => absurd isWindow window⟩ cpu

/-- Reset, a current VMCS, and a primary control word with NMI-window exiting on. -/
def SimulatedProcessor.awaitingNmi : SimulatedProcessor :=
  reset.enterVmxWithCurrentVmcs.setField .primaryControls 0x04406172

theorem awaitingNmi_switchable : SimulatedProcessor.awaitingNmi.WindowSwitchable :=
  ⟨rfl, by decide⟩

/-- A second non-maskable interrupt from the guest, and one from the host behind the two capability
MSRs, before the write of the word that was read for the first. -/
theorem nmi_remembered_iff_queueing :
    let cpu := SimulatedProcessor.awaitingNmi.setField .exitInterruption 0x80000202
    let frame : TrapFrame := { vector := 2 }
    (hardware.run ((Emulation.exceptionOrNmi.start .zero).interruptedAt frame.handle.run 5)
      cpu).2.nmiWindowOpen = true := by
  intro cpu frame
  have registered : ExitHandlers.defaults.get? .exceptionOrNmi = some Emulation.exceptionOrNmi :=
    rfl
  have switchable : cpu.WindowSwitchable := ⟨rfl, by decide⟩
  have running : 5 < (hardware.stepsOf .zero cpu Emulation.exceptionOrNmi).length := by decide
  exact (nmi_remembered_iff registered .zero switchable rfl running).2 (by decide)

/-- **The interrupt that arrives behind the injection is forgotten**: the injection is the first
request of the handler, and the interrupt arrives between the reading of the primary control word
and its last request, the writing of that word. -/
theorem nmi_forgotten_behind_injection :
    let cpu := SimulatedProcessor.awaitingNmi
    let frame : TrapFrame := { vector := 2 }
    ExitHandlers.defaults.get? .nmiWindow = some Emulation.nmiWindow ∧ cpu.WindowSwitchable ∧
    (hardware.stepsOf .zero cpu Emulation.nmiWindow).map Prod.fst
      = [.vmwrite .entryInterruption (.word 0x80000202), .vmread .primaryControls,
        .readMsr Msr.vmxBasic, .readMsr Msr.trueProcBasedCtls,
        .vmwrite .primaryControls (.word 0x04006172)] ∧
    (hardware.run ((Emulation.nmiWindow.start .zero).interruptedAt frame.handle.run 2)
      cpu).2.nmiWindowOpen = false :=
  ⟨rfl, awaitingNmi_switchable, rfl, by decide⟩

end VtxMonitor
