import VtxMonitor.Proofs.Vmcs.Footprint
import VtxMonitor.Simulator.Processor

/-!
# Proofs/Simulator/Filling — programs that fill the current VMCS

A filling program reads whatever it likes but VMCS fields and writes nothing but VMCS fields.  **On
two processors that differ in VMCS fields and events it does the same** (`run_agree`): it ends with
the same value, and every field that it wrote is the same afterwards, whatever it held before.
-/

namespace VtxMonitor

variable {α : Type}

namespace SimulatedProcessor

/-! ## What filling requests leave alone -/

theorem answer_of_filling {op : Operation} (filling : op.Filling) (cpu : SimulatedProcessor) :
    ∃ fields, (answer op cpu).2 = { cpu with fields := fields } := by
  cases op with
  | vmwrite field content =>
      simp only [answer, vmwrite]
      split
      · exact ⟨_, rfl⟩
      · exact ⟨_, rfl⟩
  | _ => first | exact ⟨_, rfl⟩ | exact filling.elim

/-! ## Filling on two processors side by side -/

/-- Two processors that differ in nothing but VMCS fields and recorded events. -/
def AgreeOutsideVmcs (cpu cpu' : SimulatedProcessor) : Prop :=
  cpu' = { cpu with fields := cpu'.fields, events := cpu'.events }

/-- A filling request gets the same reply from both processors and keeps them in agreement; where
they held the same, or where it writes, they hold the same afterwards. -/
theorem answer_agree {op : Operation} (filling : op.Filling) {cpu cpu' : SimulatedProcessor}
    (agree : AgreeOutsideVmcs cpu cpu') (current : cpu.currentVmcs.isSome) :
    (answer op cpu').1 = (answer op cpu).1 ∧
    AgreeOutsideVmcs (answer op cpu).2 (answer op cpu').2 ∧
    ∀ field, op.Writes field ∨ cpu'.fields field = cpu.fields field →
      (answer op cpu').2.fields field = (answer op cpu).2.fields field := by
  rw [agree]
  cases op with
  | vmwrite written content =>
      simp only [answer, vmwrite, Option.isNone_eq_false_iff.2 current]
      refine ⟨rfl, rfl, fun field h => ?_⟩
      by_cases same : field = written
      · simp [setField, same]
      · simp [setField, update_of_ne _ _ same, h.resolve_left fun w => same w.symm]
  | _ =>
      first
      | exact filling.elim
      | exact ⟨rfl, rfl, fun field h => h.resolve_left id⟩

/-- **A filling program ends with the same value on both processors and keeps them in agreement,
and every field that it wrote is the same on both afterwards.** -/
theorem run_agree {program : Program α} (filling : program.Only Operation.Filling)
    {cpu cpu' : SimulatedProcessor} (agree : AgreeOutsideVmcs cpu cpu')
    (current : cpu.currentVmcs.isSome) :
    (hardware.run program cpu').1 = (hardware.run program cpu).1 ∧
    AgreeOutsideVmcs (hardware.run program cpu).2 (hardware.run program cpu').2 ∧
    ∀ field, (∃ step ∈ hardware.steps program cpu, step.1.Writes field) ∨
        cpu'.fields field = cpu.fields field →
      (hardware.run program cpu').2.fields field = (hardware.run program cpu).2.fields field := by
  induction program generalizing cpu cpu' with
  | done value => exact ⟨rfl, agree, fun field h => h.resolve_left (by simp [Hardware.steps])⟩
  | perform op next ih =>
      obtain ⟨reply, agree', same⟩ := answer_agree filling.1 agree current
      have current' : (answer op cpu).2.currentVmcs.isSome := by
        obtain ⟨_, h⟩ := answer_of_filling filling.1 cpu
        rw [h]
        exact current
      obtain ⟨value, agree'', same'⟩ := ih (answer op cpu).1 (filling.2 _) agree' current'
      simp only [Hardware.run_perform, hardware, reply]
      refine ⟨value, agree'', fun field h => same' field ?_⟩
      rcases h with ⟨step, mem, writes⟩ | h
      · rcases List.mem_cons.1 mem with rfl | mem
        · exact .inr (same field (.inl writes))
        · exact .inl ⟨step, mem, writes⟩
      · exact .inr (same field (.inr h))

end SimulatedProcessor

end VtxMonitor
