import VtxMonitor.Proofs.Exit.Confinement

/-!
# Proofs/Exit/Handlers — what each of the default handlers may do

`Emulation.Tame` collects the emulations that stay within the bounds, return while a VMCS is current
and spare the placeholder of the stack pointer; they are closed under sequencing.  CPUID, RDMSR,
WRMSR, the control-register accesses and the reflection of exceptions are tame.  The two handlers
that turn NMI-window exiting on and off are not, but **all six keep to the bounds between any two of
their requests** (`ExitHandlers.defaults_guarantees`).
-/

namespace VtxMonitor

open SimulatedProcessor (hardware)

variable {α β : Type} {msrs : Msr.Number → Prop} {regs : GuestRegisters}

/-- An emulation leaves the placeholder of the stack pointer among the registers alone. -/
def Emulation.Spares (regs : GuestRegisters) (emulation : Emulation α) : Prop :=
  ∀ cpu, (hardware.execute regs cpu emulation).record.get .rsp = regs.get .rsp

theorem Emulation.Spares.bind {emulation : Emulation α} {next : α → Emulation β}
    (first : Spares regs emulation) (rest : ∀ value regs, Spares regs (next value)) :
    Spares regs (emulation >>= next) := by
  intro cpu
  rw [Hardware.execute_bind, Execution.andThen]
  split
  · exact (rest _ _ _).trans (first cpu)
  · exact first cpu

theorem Emulation.Spares.pure (value : α) : Spares regs (Pure.pure value) := fun _ => rfl

theorem Emulation.Spares.procedure (procedure : Procedure α) :
    Spares regs (liftM procedure) := fun cpu => by
  rw [Hardware.execute_procedure]

/-- An emulation that stays within the bounds, returns while a VMCS is current, and spares the
placeholder of the stack pointer among the registers. -/
structure Emulation.Tame (msrs : Msr.Number → Prop) (regs : GuestRegisters)
    (emulation : Emulation α) : Prop where
  within : (emulation.start regs).Only (Operation.Within (.emulation msrs .kept))
  returns : ∀ cpu : SimulatedProcessor, cpu.currentVmcs.isSome →
    ∃ value, (hardware.execute regs cpu emulation).outcome = .ok value
  spares : Spares regs emulation

namespace Emulation.Tame

/-- A tame emulation leaves NMI-window exiting alone, so any use of it is allowed. -/
theorem guarantees {emulation : Emulation α} (tame : Tame msrs regs emulation) {use : WindowUse}
    (base : SimulatedProcessor) :
    (emulation.start regs).Guarantees hardware (Confined (.emulation msrs use)) base := by
  have within : (emulation.start regs).Only (Operation.Within (.emulation msrs use)) :=
    tame.within.mono fun op => by cases op <;> exact id
  exact within.guarantees base

theorem confined {emulation : Emulation α} (tame : Tame msrs regs emulation) {use : WindowUse}
    (cpu : SimulatedProcessor) :
    Confined (.emulation msrs use) cpu (hardware.execute regs cpu emulation).state :=
  (tame.guarantees cpu).confined

/-! ## Sequencing -/

theorem bind {emulation : Emulation α} {next : α → Emulation β} (first : Tame msrs regs emulation)
    (rest : ∀ value regs, Tame msrs regs (next value)) : Tame msrs regs (emulation >>= next) where
  within := first.within.start_bind fun value regs => (rest value regs).within
  returns cpu current := by
    obtain ⟨value, returned⟩ := first.returns cpu current
    have kept : Confined (.emulation msrs .kept) cpu (hardware.execute regs cpu emulation).state :=
      first.confined cpu
    rw [Hardware.execute_bind, Execution.andThen, returned]
    exact (rest value _).returns _ (kept.currentVmcs ▸ current)
  spares := first.spares.bind fun value regs => (rest value regs).spares

theorem pure (value : α) : Tame msrs regs (Pure.pure value) :=
  ⟨trivial, fun _ _ => ⟨value, rfl⟩, .pure value⟩

theorem get_bind {next : GuestRegisters → Emulation β} (rest : Tame msrs regs (next regs)) :
    Tame msrs regs (get >>= next) :=
  ⟨rest.within, rest.returns, rest.spares⟩

/-- Replacing the registers, apart from the placeholder. -/
theorem set_bind {regs' : GuestRegisters} {next : PUnit → Emulation β}
    (spares : regs'.get .rsp = regs.get .rsp) (rest : Tame msrs regs' (next ⟨⟩)) :
    Tame msrs regs (set regs' >>= next) :=
  ⟨rest.within, rest.returns, fun cpu => (rest.spares cpu).trans spares⟩

/-- Changing the registers, apart from the placeholder. -/
theorem of_modify {f : GuestRegisters → GuestRegisters}
    (spares : (f regs).get .rsp = regs.get .rsp) :
    Tame msrs regs (modify f : Emulation PUnit) :=
  ⟨trivial, fun _ _ => ⟨⟨⟩, rfl⟩, fun _ => spares⟩

/-! ## Requests -/

/-- A request, and what comes behind its reply on the same registers. -/
theorem request_bind {op : Operation} {next : op.Reply → Emulation β}
    (within : op.Within (.emulation msrs .kept))
    (rest : ∀ reply, Tame msrs regs (next reply)) :
    Tame msrs regs (liftM (Program.request op) >>= next) where
  within := ⟨within, fun reply => (rest reply).within⟩
  returns cpu current := by
    have kept : Confined (.emulation msrs .kept) cpu (hardware.answer op cpu).2 :=
      within.answer cpu
    exact (rest _).returns _ (kept.currentVmcs ▸ current)
  spares cpu := (rest _).spares _

theorem read (field : Vmcs.Field) : Tame msrs regs (liftM (Vmcs.read field)) where
  within :=
    have read : (Vmcs.read field).run.Only (Operation.Within (.emulation msrs .kept)) :=
      ⟨trivial, fun _ => trivial⟩
    read.start_procedure regs
  returns cpu current := by
    rw [Hardware.execute_procedure, SimulatedProcessor.run_read current]
    exact ⟨_, rfl⟩
  spares := .procedure _

theorem write {field : Vmcs.Field} (mem : field ∈ emulatedFields) (value : Word) :
    Tame msrs regs (liftM (Vmcs.write field value)) where
  within :=
    have other : Vmcs.Field.primaryControls ≠ field := by
      rintro rfl
      exact absurd mem (by decide)
    have write : (Vmcs.write field value).run.Only (Operation.Within (.emulation msrs .kept)) :=
      ⟨⟨mem, other⟩, fun _ => trivial⟩
    write.start_procedure regs
  returns cpu current := by
    rw [Hardware.execute_procedure, SimulatedProcessor.run_write current]
    exact ⟨_, rfl⟩
  spares := .procedure _

end Emulation.Tame

namespace Emulation

/-! ## Instructions -/

theorem cpuid_tame (regs : GuestRegisters) : Tame msrs regs cpuid :=
  .get_bind (.request_bind trivial fun _ => .set_bind rfl (.pure _))

theorem rdmsr_tame (regs : GuestRegisters) : Tame msrs regs rdmsr :=
  .get_bind (.request_bind trivial fun _ => .request_bind trivial fun _ =>
    .set_bind rfl (.pure _))

/-- WRMSR needs its MSR to be among those that may be written. -/
theorem wrmsr_tame (mem : msrs (regs.low .rcx)) : Tame msrs regs wrmsr :=
  .get_bind (.request_bind trivial fun _ => .request_bind mem fun _ => .pure _)

/-! ## Control-register accesses -/

theorem readGpr_tame (r : Register) : Tame msrs regs (readGpr r) := by
  cases r with
  | rsp => exact .read _
  | _ => exact .get_bind (.pure _)

theorem writeGpr_tame (r : Register) (value : Word) : Tame msrs regs (writeGpr r value) := by
  cases r with
  | rsp => exact .write (by decide) _
  | _ => exact .of_modify rfl

theorem writeControlRegister_tame (register : ControlRegister) (value : Word) :
    Tame msrs regs (liftM (writeControlRegister register value)) := by
  rw [writeControlRegister, Procedure.liftM_bind]
  refine .bind (.write (by cases register <;> decide) _) fun _ _ => ?_
  cases register with
  | cr0 => exact .write (by decide) _
  | cr3 => exact .pure ()
  | cr4 => exact .write (by decide) _

theorem movCr_tame (regs : GuestRegisters) : Tame msrs regs movCr := by
  refine .bind (.read _) fun qualification regs => ?_
  extract_lets access gpr leave
  have left : ∀ done regs, Tame msrs regs (leave done) := fun _ _ => .pure _
  split
  · split
    · exact .request_bind trivial fun _ => left () _
    · exact .bind (readGpr_tame _) fun _ _ => .bind (writeControlRegister_tame _ _) left
  · split
    · exact .request_bind trivial fun _ => left () _
    · exact .bind (.read _) fun _ _ => .bind (writeGpr_tame _ _) left
  · exact .bind (.read _) fun _ _ => .bind (writeControlRegister_tame _ _) left
  · exact .bind (.read _) fun _ _ => .bind (writeControlRegister_tame _ _) left

/-! ## Events -/

theorem inject_tame (event : EventInjection) (errorCode : BitVec 32) :
    Tame msrs regs (liftM (event.inject errorCode)) := by
  rw [EventInjection.inject]
  split
  · rw [Procedure.liftM_bind]
    exact .bind (.write (by decide) _) fun _ _ => .write (by decide) _
  · exact .write (by decide) _

theorem queueAgain_tame (info : ExitInterruption) (errorCode : BitVec 32) :
    Tame msrs regs (liftM (info.queueAgain errorCode)) := by
  rw [ExitInterruption.queueAgain, Procedure.liftM_bind]
  exact .request_bind trivial fun _ => inject_tame _ _

theorem reinject_tame (info : ExitInterruption) (errorCode : BitVec 32) :
    Tame msrs regs (liftM (info.reinject errorCode)) := by
  rw [ExitInterruption.reinject]
  split
  · rw [Procedure.liftM_bind]
    refine .bind (.read _) fun length regs => ?_
    rw [Procedure.liftM_bind]
    exact .bind (.write (by decide) _) fun _ _ => queueAgain_tame info errorCode
  · exact queueAgain_tame info errorCode

/-- Reflecting an event that is not a non-maskable interrupt. -/
theorem forward_tame {info : ExitInterruption} (other : info.isNmi = false) :
    Tame msrs regs (liftM info.forward) := by
  rw [ExitInterruption.forward, other, if_neg Bool.false_ne_true]
  split
  · rw [Procedure.liftM_bind]
    exact .bind (.read _) fun errorCode _ => reinject_tame info _
  · exact reinject_tame info 0

/-- Exceptions are reflected and non-maskable interrupts are remembered within the bounds, if
NMI-window exiting may be turned on. -/
theorem exceptionOrNmi_guarantees {use : WindowUse} (allowed : ∀ before, use.Allows before true)
    (regs : GuestRegisters) (base : SimulatedProcessor) :
    (exceptionOrNmi.start regs).Guarantees hardware (Confined (.emulation msrs use)) base := by
  have read : ExitInterruption.read.run.Only (Operation.Within (.emulation msrs use)) :=
    ⟨trivial, fun reply => by cases reply <;> trivial⟩
  have forwarded : ∀ (info : ExitInterruption) regs,
      ((liftM info.forward : Emulation Unit).start regs).Guarantees hardware
        (Confined (.emulation msrs use)) base := by
    intro info regs
    cases other : info.isNmi with
    | false => exact (forward_tame other).guarantees base
    | true =>
        rw [ExitInterruption.forward, other, if_pos rfl, Procedure.liftM_bind]
        have report : (Program.report .queueingNmi).Only (Operation.Within (.emulation msrs use)) :=
          ⟨trivial, fun _ => trivial⟩
        exact ((report.start_program regs).guarantees base).start_bind fun _ _ =>
          (NmiWindow.setExiting_guarantees allowed).start_procedure _
  exact ((read.start_procedure regs).guarantees base).start_bind fun info _ =>
    (forwarded info _).start_bind fun _ _ => trivial

/-- The remembered interrupt is delivered within the bounds, if NMI-window exiting may be turned
off. -/
theorem nmiWindow_guarantees {use : WindowUse} (allowed : ∀ before, use.Allows before false)
    (regs : GuestRegisters) (base : SimulatedProcessor) :
    (nmiWindow.start regs).Guarantees hardware (Confined (.emulation msrs use)) base := by
  have delivered : ((liftM NmiWindow.deliver : Emulation Unit).start regs).Guarantees hardware
      (Confined (.emulation msrs use)) base := by
    rw [NmiWindow.deliver, Procedure.liftM_bind]
    exact ((inject_tame _ _).guarantees base).start_bind fun _ _ =>
      (NmiWindow.setExiting_guarantees allowed).start_procedure _
  exact delivered.start_bind fun _ _ => trivial

theorem exceptionOrNmi_spares (regs : GuestRegisters) : Spares regs exceptionOrNmi :=
  (Spares.procedure _).bind fun _ _ => (Spares.procedure _).bind fun _ _ => .pure _

theorem nmiWindow_spares (regs : GuestRegisters) : Spares regs nmiWindow :=
  (Spares.procedure _).bind fun _ _ => .pure _

end Emulation

/-! ## The registry -/

/-- The reasons of exits whose instruction is executed for the guest and then skipped. -/
def BasicExitReason.instructions : List BasicExitReason := [.cpuid, .rdmsr, .wrmsr, .movCr]

/-- Whether bounds leave room for what the default handler of a reason does besides writing emulated
fields. -/
structure BasicExitReason.Permitted (reason : BasicExitReason) (msrs : Msr.Number → Prop)
    (use : WindowUse) (regs : GuestRegisters) : Prop where
  writes : reason = .wrmsr → msrs (regs.low .rcx)
  opens : reason = .exceptionOrNmi → ∀ before, use.Allows before true
  closes : reason = .nmiWindow → ∀ before, use.Allows before false

namespace ExitHandlers

/-- The default handlers: four of them are tame wherever they may write their MSR, the other two
turn NMI-window exiting on and off. -/
theorem defaults_cases {reason : BasicExitReason} {handler : ExitHandler}
    (registered : defaults.get? reason = some handler) :
    (reason = .nmiWindow ∧ handler = Emulation.nmiWindow) ∨
    (reason = .exceptionOrNmi ∧ handler = Emulation.exceptionOrNmi) ∨
    (reason ∈ BasicExitReason.instructions ∧
      ∀ msrs regs, (reason = .wrmsr → msrs (regs.low .rcx)) →
        Emulation.Tame msrs regs handler) := by
  simp only [defaults, insert] at registered
  split at registered
  · next window => exact .inl ⟨window, (Option.some.inj registered).symm⟩
  split at registered
  · next exception => exact .inr (.inl ⟨exception, (Option.some.inj registered).symm⟩)
  refine .inr (.inr ?_)
  split at registered
  · next wrmsr =>
      obtain rfl := Option.some.inj registered
      exact ⟨by rw [wrmsr]; decide, fun _ _ mem => Emulation.wrmsr_tame (mem wrmsr)⟩
  split at registered
  · next rdmsr =>
      obtain rfl := Option.some.inj registered
      exact ⟨by rw [rdmsr]; decide, fun _ regs _ => Emulation.rdmsr_tame regs⟩
  split at registered
  · next cpuid =>
      obtain rfl := Option.some.inj registered
      exact ⟨by rw [cpuid]; decide, fun _ regs _ => Emulation.cpuid_tame regs⟩
  split at registered
  · next movCr =>
      obtain rfl := Option.some.inj registered
      exact ⟨by rw [movCr]; decide, fun _ regs _ => Emulation.movCr_tame regs⟩
  · exact absurd registered nofun

/-- The reasons of exits whose instruction is executed for the guest and then skipped, with their
handlers. -/
theorem defaults_instruction {reason : BasicExitReason}
    (instruction : reason ∈ BasicExitReason.instructions) (regs : GuestRegisters) :
    ∃ handler, defaults.get? reason = some handler ∧
      Emulation.Tame (fun _ => True) regs handler := by
  simp only [BasicExitReason.instructions, List.mem_cons, List.not_mem_nil, or_false] at instruction
  rcases instruction with rfl | rfl | rfl | rfl
  · exact ⟨_, rfl, Emulation.cpuid_tame regs⟩
  · exact ⟨_, rfl, Emulation.rdmsr_tame regs⟩
  · exact ⟨_, rfl, Emulation.wrmsr_tame trivial⟩
  · exact ⟨_, rfl, Emulation.movCr_tame regs⟩

/-- **Every default handler keeps to the bounds between any two of its requests.** -/
theorem defaults_guarantees {reason : BasicExitReason} {handler : ExitHandler}
    (registered : defaults.get? reason = some handler) {use : WindowUse}
    (permitted : reason.Permitted msrs use regs) (base : SimulatedProcessor) :
    (handler.start regs).Guarantees hardware (Confined (.emulation msrs use)) base := by
  rcases defaults_cases registered with ⟨window, rfl⟩ | ⟨exception, rfl⟩ | ⟨-, tame⟩
  · exact Emulation.nmiWindow_guarantees (permitted.closes window) regs base
  · exact Emulation.exceptionOrNmi_guarantees (permitted.opens exception) regs base
  · exact (tame msrs regs permitted.writes).guarantees base

theorem defaults_spares {reason : BasicExitReason} {handler : ExitHandler}
    (registered : defaults.get? reason = some handler) (regs : GuestRegisters) :
    Emulation.Spares regs handler := by
  rcases defaults_cases registered with ⟨-, rfl⟩ | ⟨-, rfl⟩ | ⟨-, tame⟩
  · exact Emulation.nmiWindow_spares regs
  · exact Emulation.exceptionOrNmi_spares regs
  · exact (tame (fun _ => True) regs fun _ => trivial).spares

end ExitHandlers

end VtxMonitor
