import VtxMonitor.Proofs.Control.Fields
import VtxMonitor.Proofs.Vmcs.GuestArea

/-!
# Proofs/Vmcs/Population — filling the VMCS can only fail for an unmapped MSR bitmap

A population stores what the three areas ask for, one after the other (`populate_leads`), and fails
where the MSR bitmap has no physical address (`populate_leads_unmapped`).  The areas do not overlap,
so each of them keeps what is stored in it.  On the simulated processor **an MSR bitmap that is not
mapped is the only failure of a population, and nothing but VMCS fields changes** (`run_populate`).
-/

namespace VtxMonitor

open Vmcs (Field)

variable {σ : Type} {hw : Hardware σ} {frame : VmcsFrame hw} {words : Field → Word} {s : σ}

/-! ## What is stored -/

/-- Everything that is stored in the VMCS for a virtual processor's memory, in order. -/
def VmcsFrame.populationValues (frame : VmcsFrame hw) (s : σ) (memory : VcpuMemory)
    (bitmap : Word) : List (Field × Word) :=
  Vmcs.controlValues (hw.allowedSettings s) bitmap ++
    (frame.hostValues memory ++ hw.guestValues s)

namespace Vmcs

/-- The control area keeps what is stored in it. -/
theorem updateAll_population_control {memory : VcpuMemory} {bitmap : Word} {field : Field}
    {value : Word} (mem : (field, value) ∈ controlValues (hw.allowedSettings s) bitmap) :
    updateAll words (frame.populationValues s memory bitmap) field = value := by
  have control : field.area = .control := by
    have listed := List.mem_map_of_mem (f := Prod.fst) mem
    rw [map_fst_controlValues] at listed
    exact area_of_mem_controlFields listed
  rw [VmcsFrame.populationValues, updateAll_append, updateAll_append,
    updateAll_guestValues_of_area (by rw [control]; decide),
    VmcsHolder.updateAll_hostValues_of_area _ (by rw [control]; decide)]
  exact updateAll_controlValues mem

/-- The guest-state area is written last, and is a copy of the processor. -/
theorem updateAll_population_snapshot (memory : VcpuMemory) (bitmap : Word) :
    hw.GuestSnapshot s (updateAll words (frame.populationValues s memory bitmap)) := by
  rw [VmcsFrame.populationValues, updateAll_append, updateAll_append]
  exact updateAll_snapshot _

/-! ## Filling the VMCS -/

/-- **A population stores what the three areas ask for.** -/
theorem populate_leads (memory : VcpuMemory) {bitmap : Word} (holds : frame.Holds s)
    (mapped : (hw.answer (.physicalAddress memory.msrBitmapAddress) s).1 = some bitmap) :
    frame.Leads (frame.rest s) words (populate memory).run (.ok ())
      (updateAll words (frame.populationValues s memory bitmap)) := by
  have found := frame.inspected (.physicalAddress memory.msrBitmapAddress) s trivial holds
  have settings : hw.allowedSettings (frame.rest s) = hw.allowedSettings s :=
    funext (frame.allowedSettings_rest holds)
  rw [VmcsFrame.populationValues, updateAll_append, updateAll_append, ← settings]
  refine (writeControlFields_leads memory (found ▸ mapped)).procedure_bind ?_
  refine ((frame.pinned _).writeHostFields_leads memory).procedure_bind ?_
  exact writeGuestFields_leads holds

/-- Where the MSR bitmap is not mapped, a population ends with that. -/
theorem populate_leads_unmapped (memory : VcpuMemory) (holds : frame.Holds s)
    (unmapped : (hw.answer (.physicalAddress memory.msrBitmapAddress) s).1 = none) :
    ∃ words', frame.Leads (frame.rest s) words (populate memory).run
      (.error (.unmappedAddress memory.msrBitmapAddress)) words' := by
  have found := frame.inspected (.physicalAddress memory.msrBitmapAddress) s trivial holds
  exact ⟨_, (writeControlFields_leads_unmapped memory (found ▸ unmapped)).procedure_bind_error⟩

/-- A population fills the current VMCS, whatever it is answered. -/
theorem populate_filling (memory : VcpuMemory) : (populate memory).run.Only Operation.Filling := by
  have filling : ∀ {fields : List Field} {procedure : Procedure Unit},
      procedure.run.Only (Operation.Fills fields) → procedure.run.Only Operation.Filling :=
    fun fills => fills.mono fun _ => Operation.Fills.filling
  exact (filling (writeControlFields_fills memory)).procedure_bind fun _ =>
    (filling (writeHostFields_fills memory)).procedure_bind fun _ => filling writeGuestFields_fills

end Vmcs

/-! ## The simulated processor -/

namespace SimulatedProcessor

variable {cpu cpu' : SimulatedProcessor}

/-- Processors with the same rest differ in nothing but VMCS fields. -/
theorem eq_of_rest_eq (same : cpu.vmcsFrame.rest cpu' = cpu.vmcsFrame.rest cpu) :
    cpu' = { cpu with fields := cpu'.fields } :=
  congrArg (fun rest : SimulatedProcessor => { rest with fields := cpu'.fields }) same

variable (current : cpu.currentVmcs.isSome)
include current

/-- **With a current VMCS the population only fails for an unmapped MSR bitmap**, and it changes
nothing but VMCS fields. -/
theorem run_populate (memory : VcpuMemory) :
    ∃ fields, hardware.run (Vmcs.populate memory).run cpu
      = (match cpu.physicalAddress memory.msrBitmapAddress with
          | some _ => .ok ()
          | none => .error (.unmappedAddress memory.msrBitmapAddress),
        { cpu with fields := fields }) := by
  have holds : cpu.vmcsFrame.Holds cpu := ⟨current, rfl⟩
  have shows := cpu.vmcsFrame.shows_self holds
  cases mapped : cpu.physicalAddress memory.msrBitmapAddress with
  | none =>
      obtain ⟨words, leads⟩ := Vmcs.populate_leads_unmapped memory holds mapped
      obtain ⟨ended, shows⟩ := leads cpu shows
      exact ⟨_, Prod.ext ended (eq_of_rest_eq shows.rest)⟩
  | some bitmap =>
      obtain ⟨ended, shows⟩ := Vmcs.populate_leads memory holds mapped cpu shows
      exact ⟨_, Prod.ext ended (eq_of_rest_eq shows.rest)⟩

variable {memory : VcpuMemory} {bitmap : Word}
  (mapped : cpu.physicalAddress memory.msrBitmapAddress = some bitmap)
include mapped

/-- What a population that succeeds leaves in the fields. -/
theorem word_populate :
    (hardware.run (Vmcs.populate memory).run cpu).2.word
      = updateAll cpu.word (cpu.vmcsFrame.populationValues cpu memory bitmap) := by
  have holds : cpu.vmcsFrame.Holds cpu := ⟨current, rfl⟩
  have leads := Vmcs.populate_leads memory holds mapped cpu (cpu.vmcsFrame.shows_self holds)
  exact leads.2.word

/-- **A population leaves the adjusted control words in the VMCS.** -/
theorem word_populate_control (control : VmxControl) :
    (hardware.run (Vmcs.populate memory).run cpu).2.word control.field
      = (Vmcs.adjustedWord cpu.allowedSettings control).setWidth 64 := by
  rw [word_populate current mapped]
  exact Vmcs.updateAll_population_control (Vmcs.adjustedWord_mem_controlValues _ bitmap control)

/-- **A population leaves a copy of the processor in the guest-state area.** -/
theorem snapshot_populate :
    hardware.GuestSnapshot cpu (hardware.run (Vmcs.populate memory).run cpu).2.word := by
  rw [word_populate current mapped]
  exact Vmcs.updateAll_population_snapshot memory bitmap

end SimulatedProcessor

end VtxMonitor
