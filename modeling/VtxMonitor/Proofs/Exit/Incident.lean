import VtxMonitor.Proofs.Exit.Dispatch
import VtxMonitor.Proofs.Exit.Handlers
import VtxMonitor.Proofs.Vmcs.Footprint

/-!
# Proofs/Exit/Incident — what happens to the monitor while a guest runs

A guest runs until an exit stops it, with arbitrary registers and with arbitrary contents in the two
areas of the VMCS that are its own; in between, interrupts arrive from the host.  An `Incident` is
one of either, and a run is a list of them.  Whatever the guest chooses, **handling an exit stays
within the scope of the guest** (`VmExit.dispatched_confined`) and spares the placeholder of the
stack pointer (`VmExit.dispatched_spares`).
-/

namespace VtxMonitor

open SimulatedProcessor (hardware)

/-- Whether an exit leaves something new in a field. -/
def Vmcs.Field.Volatile (field : Vmcs.Field) : Prop :=
  field.area = .exitInformation ∨ field.area = .guest

instance (field : Vmcs.Field) : Decidable field.Volatile :=
  inferInstanceAs (Decidable (_ ∨ _))

/-- An exit: the registers of the guest, and what it left in the exit information and in the guest
state. -/
structure VmExit where
  registers : GuestRegisters
  information : Vmcs.Field → Option Word

/-- A processor stopped by an exit. -/
def SimulatedProcessor.stopAt (cpu : SimulatedProcessor) (exit : VmExit) : SimulatedProcessor :=
  { cpu with
    fields := fun field => if field.Volatile then exit.information field else cpu.fields field }

/-- What the default handlers make of an exit. -/
def VmExit.dispatched (exit : VmExit) (cpu : SimulatedProcessor) :
    Execution GuestRegisters SimulatedProcessor ExitType :=
  hardware.execute exit.registers (cpu.stopAt exit) ExitHandlers.defaults.dispatch

/-- What happens while a guest runs. -/
inductive Incident where
  | interrupt (frame : TrapFrame)
  | exit (vmExit : VmExit)

/-- How handling an incident ends, and the processor behind it. -/
def Incident.handled : Incident → SimulatedProcessor → Except Error Unit × SimulatedProcessor
  | .interrupt frame, cpu => hardware.run frame.handle.run cpu
  | .exit vmExit, cpu =>
      ((vmExit.dispatched cpu).outcome.map fun _ => (), (vmExit.dispatched cpu).state)

/-- The processor behind a run, whether its incidents were handled successfully or not. -/
def SimulatedProcessor.afterAll (cpu : SimulatedProcessor) (incidents : List Incident) :
    SimulatedProcessor :=
  incidents.foldl (fun cpu incident => (incident.handled cpu).2) cpu

@[simp] theorem SimulatedProcessor.afterAll_nil (cpu : SimulatedProcessor) :
    cpu.afterAll [] = cpu := rfl

@[simp] theorem SimulatedProcessor.afterAll_cons (cpu : SimulatedProcessor) (incident : Incident)
    (rest : List Incident) :
    cpu.afterAll (incident :: rest) = (incident.handled cpu).2.afterAll rest := rfl

/-- The scope of a guest: the emulation, and whatever its exits leave behind. -/
def Scope.guest (msrs : Msr.Number → Prop) (use : WindowUse) : Scope :=
  ⟨fun field => field ∈ emulatedFields ∨ field.Volatile, msrs, use⟩

variable {msrs : Msr.Number → Prop} {use : WindowUse} {cpu cpu' : SimulatedProcessor}

theorem Confined.of_emulation (h : Confined (.emulation msrs use) cpu cpu') :
    Confined (.guest msrs use) cpu cpu' :=
  h.mono (fun _ => .inl) (fun _ => id) rfl

namespace VmExit

variable (exit : VmExit)

/-! ## The exit information -/

/-- What reading a field behind an exit returns. -/
def word (field : Vmcs.Field) : Word := (exit.information field).getD 0

/-- The reason of an exit. -/
def reason : ExitReason := ⟨(exit.word .exitReason).setWidth 32⟩

/-- The event that caused an exit. -/
def interruption : ExitInterruption := ⟨(exit.word .exitInterruption).setWidth 32⟩

variable {exit} in
theorem word_stopAt {field : Vmcs.Field} (isVolatile : field.Volatile) :
    (cpu.stopAt exit).word field = exit.word field := by
  rw [SimulatedProcessor.word, SimulatedProcessor.stopAt, word]
  exact congrArg (Option.getD · 0) (if_pos isVolatile)

theorem exitReason_stopAt (cpu : SimulatedProcessor) : (cpu.stopAt exit).exitReason = exit.reason :=
  congrArg (fun word => ExitReason.mk (word.setWidth 32)) (word_stopAt (by decide))

/-! ## The scope of an exit -/

theorem stopAt_confined (cpu : SimulatedProcessor) :
    Confined (.guest msrs use) cpu (cpu.stopAt exit) := by
  refine .withFields cpu (fun field free => if_neg fun isVolatile => free (.inr isVolatile)) ?_
  exact if_neg (by decide)

/-- Skipping an instruction only writes the instruction pointer of the guest. -/
theorem advanceRip_within {scope : Scope} (mem : scope.fields .guestRip) :
    advanceRip.run.Only (Operation.Within scope) := by
  have read : ∀ field, (Vmcs.read field).run.Only (Operation.Within scope) :=
    fun _ => ⟨trivial, fun _ => trivial⟩
  refine (read _).procedure_bind fun rip => (read _).procedure_bind fun length => ?_
  split
  · trivial
  · exact ⟨⟨mem, by decide⟩, fun _ => trivial⟩

/-- Serving an exit stays within the scope of the guest if its handler does. -/
theorem serve_confined {handler : ExitHandler} {regs : GuestRegisters} {cpu : SimulatedProcessor}
    (confined : Confined (.guest msrs use) cpu (hardware.execute regs cpu handler).state) :
    Confined (.guest msrs use) cpu
      (hardware.execute regs cpu (ExitHandlers.serve handler)).state := by
  rw [ExitHandlers.serve, Hardware.execute_bind, Execution.andThen]
  split
  · next exitType _ =>
      refine confined.trans (Program.Guarantees.confined (Program.Only.guarantees ?_ _))
      split
      · have within : advanceRip.run.Only (Operation.Within (.guest msrs use)) :=
          advanceRip_within (.inr (by decide))
        exact (within.start_procedure _).start_bind fun _ _ => trivial
      · trivial
  · exact confined

/-- **Handling an exit stays within the scope of the guest**, whether it succeeds or fails. -/
theorem dispatched_confined (permitted : exit.reason.basic.Permitted msrs use exit.registers)
    (cpu : SimulatedProcessor) :
    Confined (.guest msrs use) cpu (exit.dispatched cpu).state := by
  refine (exit.stopAt_confined cpu).trans ?_
  rcases ExitHandlers.defaults.dispatch_cases exit.registers (cpu.stopAt exit) with
    ⟨-, unchanged⟩ | ⟨handler, registered, ended⟩
  · rw [dispatched, unchanged]
    exact .refl _
  · rw [exitReason_stopAt] at registered
    rw [dispatched, ended]
    have handled := ExitHandlers.defaults_guarantees registered permitted (cpu.stopAt exit)
    exact serve_confined (Confined.of_emulation handled.confined)

/-- **Handling an exit spares the placeholder of the stack pointer.** -/
theorem dispatched_spares (cpu : SimulatedProcessor) :
    (exit.dispatched cpu).record.get .rsp = exit.registers.get .rsp := by
  rcases ExitHandlers.defaults.dispatch_cases exit.registers (cpu.stopAt exit) with
    ⟨unchanged, -⟩ | ⟨handler, registered, ended⟩
  · rw [dispatched, unchanged]
  · rw [dispatched, ended]
    refine (ExitHandlers.defaults_spares registered _).bind (fun exitType regs => ?_) _
    split
    · exact (Emulation.Spares.procedure _).bind fun _ _ => .pure _
    · exact .pure _

end VmExit

/-! ## Incidents and runs -/

/-- A host interrupt stays within every scope in which NMI-window exiting may be turned on. -/
theorem TrapFrame.handle_confined {scope : Scope} (frame : TrapFrame)
    (allowed : ∀ before, scope.window.Allows before true) (cpu : SimulatedProcessor) :
    Confined scope cpu (hardware.run frame.handle.run cpu).2 := by
  by_cases nmi : frame.vector = nmiVector.setWidth 64
  · rw [TrapFrame.handle, if_pos nmi]
    exact (NmiWindow.setExiting_guarantees allowed).confined
  · rw [SimulatedProcessor.run_handle_other cpu nmi]
    exact .refl cpu

namespace Incident

/-- Whether an incident is an exit of WRMSR with a given MSR. -/
def Writes (msr : Msr.Number) : Incident → Prop
  | .interrupt _ => False
  | .exit vmExit => vmExit.reason.basic = .wrmsr ∧ vmExit.registers.low .rcx = msr

theorem handled_confined (incident : Incident) (cpu : SimulatedProcessor) :
    Confined (.guest (incident.Writes ·) .switched) cpu (incident.handled cpu).2 := by
  cases incident with
  | interrupt frame => exact frame.handle_confined (WindowUse.switched_allows · true) cpu
  | exit vmExit =>
      refine vmExit.dispatched_confined ⟨fun wrmsr => ⟨wrmsr, rfl⟩, ?_, ?_⟩ cpu
      · exact fun _ => (WindowUse.switched_allows · true)
      · exact fun _ => (WindowUse.switched_allows · false)

/-- **A run stays within the scope of the guest**, with the MSRs of its WRMSR exits. -/
theorem afterAll_confined (incidents : List Incident) (cpu : SimulatedProcessor) :
    Confined (.guest (fun msr => ∃ incident ∈ incidents, incident.Writes msr) .switched) cpu
      (cpu.afterAll incidents) := by
  induction incidents generalizing cpu with
  | nil => exact .refl cpu
  | cons incident rest ih =>
      have first : Confined
          (.guest (fun msr => ∃ other ∈ incident :: rest, other.Writes msr) .switched) cpu
          (incident.handled cpu).2 := (incident.handled_confined cpu).mono (fun _ => id)
        (fun _ writes => ⟨incident, List.mem_cons_self, writes⟩) rfl
      rw [SimulatedProcessor.afterAll_cons]
      refine first.trans ((ih _).mono (fun _ => id) ?_ rfl)
      rintro msr ⟨later, mem, writes⟩
      exact ⟨later, List.mem_cons_of_mem _ mem, writes⟩

end Incident

end VtxMonitor
