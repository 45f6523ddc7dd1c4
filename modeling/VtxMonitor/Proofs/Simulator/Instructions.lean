import Mathlib.Algebra.Group.Nat.Defs
import VtxMonitor.Proofs.Processor.Execution
import VtxMonitor.Simulator.Processor

/-!
# Proofs/Simulator/Instructions — when the VMX instructions of a simulated processor succeed

VMXON of an aligned region succeeds exactly outside of VMX operation with CR4.VMXE set
(`run_vmxon`), and **within VMX operation INVEPT, VMCLEAR and VMPTRLD cannot fail**.
-/

namespace VtxMonitor.SimulatedProcessor

/-! ## Addresses and pages -/

/-- Addresses only depend on the physical offset. -/
theorem physicalAddress_congr {cpu cpu' : SimulatedProcessor}
    (h : cpu'.physicalOffset = cpu.physicalOffset) (address : Word) :
    cpu'.physicalAddress address = cpu.physicalAddress address := by
  rw [physicalAddress, physicalAddress, h]

/-- An address is mapped if its physical address fits into 64 bits. -/
theorem physicalAddress_eq (cpu : SimulatedProcessor) (address : Word) :
    cpu.physicalAddress address
      = if address.toNat + cpu.physicalOffset.toNat < 2 ^ 64 then
          some (address + cpu.physicalOffset)
        else none := by
  rw [physicalAddress, BitVec.uaddOverflow]
  by_cases fits : address.toNat + cpu.physicalOffset.toNat < 2 ^ 64
  · rw [if_pos fits, decide_eq_false (Nat.not_le.2 fits), if_neg Bool.false_ne_true]
  · rw [if_neg fits, decide_eq_true (Nat.not_lt.1 fits), if_pos rfl]

theorem physicalAddress_eq_some {cpu : SimulatedProcessor} {address physical : Word} :
    cpu.physicalAddress address = some physical
      ↔ address.toNat + cpu.physicalOffset.toNat < 2 ^ 64 ∧
        physical = address + cpu.physicalOffset := by
  rw [physicalAddress_eq]
  by_cases fits : address.toNat + cpu.physicalOffset.toNat < 2 ^ 64
  · rw [if_pos fits, Option.some.injEq]
    exact ⟨fun h => ⟨fits, h.symm⟩, fun h => h.2.symm⟩
  · rw [if_neg fits]
    exact ⟨nofun, fun h => absurd h.1 fits⟩

theorem run_physicalAddress (cpu : SimulatedProcessor) (address : Word) :
    hardware.run (Procedure.physicalAddress address).run cpu
      = match cpu.physicalAddress address with
        | some physical => (.ok physical, cpu)
        | none => (.error (.unmappedAddress address), cpu) := by
  unfold Procedure.physicalAddress
  rw [Hardware.run_procedure_request]
  simp only [hardware, SimulatedProcessor.answer]
  cases cpu.physicalAddress address <;> rfl

theorem aligned_iff (physical : Word) :
    physical.extractLsb' 0 12 = 0 ↔ physical.toNat % 4096 = 0 := by
  rw [← BitVec.toNat_inj, BitVec.extractLsb'_toNat]
  rfl

/-- The page behind an aligned page is aligned as well. -/
theorem aligned_add_page {physical : Word} (aligned : physical.extractLsb' 0 12 = 0) :
    (physical + 0x1000).extractLsb' 0 12 = 0 := by
  rw [aligned_iff] at *
  bv_omega

/-! ## Instructions -/

/-- Whether VMXON of an aligned region succeeds. -/
def AdmitsVmxon (cpu : SimulatedProcessor) : Prop :=
  cpu.vmxOperation = false ∧ cpu.cr4 &&& cr4Vmxe ≠ 0

instance (cpu : SimulatedProcessor) : Decidable cpu.AdmitsVmxon :=
  inferInstanceAs (Decidable (_ ∧ _))

/-- VMXON of an aligned region. -/
theorem run_vmxon (cpu : SimulatedProcessor) {vmxon : Word}
    (aligned : vmxon.extractLsb' 0 12 = 0) :
    hardware.run (Program.request (.vmxon vmxon)) cpu
      = if cpu.AdmitsVmxon then (.ok (), { cpu.record (.vmxon vmxon) with vmxOperation := true })
        else (.error .invalid, cpu.record (.vmxon vmxon)) := by
  have low : vmxon &&& 0xfff = 0 := by
    apply BitVec.eq_of_toNat_eq
    rw [BitVec.toNat_and, show (0xfff : Word).toNat = 2 ^ 12 - 1 from rfl,
      Nat.and_two_pow_sub_one_eq_mod]
    exact (aligned_iff vmxon).1 aligned
  have refused : (cpu.vmxOperation || decide (cpu.cr4 &&& cr4Vmxe = 0) ||
      decide (vmxon &&& 0xfff ≠ 0)) = !decide cpu.AdmitsVmxon := by
    rw [decide_eq_false (not_not_intro low)]
    cases on : cpu.vmxOperation <;> simp [AdmitsVmxon, on]
  have unfolded : hardware.run (Program.request (.vmxon vmxon)) cpu
      = if !decide cpu.AdmitsVmxon then (.error .invalid, cpu.record (.vmxon vmxon))
        else (.ok (), { cpu.record (.vmxon vmxon) with vmxOperation := true }) := by
    rw [← refused]
    rfl
  rw [unfolded]
  by_cases admits : cpu.AdmitsVmxon
  · simp only [admits, decide_true, Bool.not_true, if_true, Bool.false_eq_true, if_false]
  · simp only [admits, decide_false, Bool.not_false, if_true, if_false]

/-- In VMX operation INVEPT succeeds. -/
theorem run_inveptAll (cpu : SimulatedProcessor) (on : cpu.vmxOperation = true) :
    hardware.run (Program.request .inveptAll) cpu
      = (.ok (), cpu.record .inveptAllContexts) := by
  change cpu.inveptAll = _
  simp only [inveptAll, record, on, if_true]

/-- In VMX operation VMCLEAR succeeds. -/
theorem run_vmclear (cpu : SimulatedProcessor) (vmcs : Word) (on : cpu.vmxOperation = true) :
    hardware.run (Program.request (.vmclear vmcs)) cpu
      = (.ok (), { cpu.record (.vmclear vmcs) with
          currentVmcs := if cpu.currentVmcs = some vmcs then none else cpu.currentVmcs }) := by
  change cpu.vmclear vmcs = _
  simp only [vmclear, record, on, if_true]
  split <;> rfl

/-- Outside of VMX operation VMCLEAR fails. -/
theorem run_vmclear_outside (cpu : SimulatedProcessor) (vmcs : Word)
    (outside : cpu.vmxOperation = false) :
    hardware.run (Program.request (.vmclear vmcs)) cpu
      = (.error .invalid, cpu.record (.vmclear vmcs)) := by
  change cpu.vmclear vmcs = _
  simp only [vmclear, record, outside, Bool.false_eq_true, if_false]

/-- In VMX operation VMPTRLD succeeds. -/
theorem run_vmptrld (cpu : SimulatedProcessor) (vmcs : Word) (on : cpu.vmxOperation = true) :
    hardware.run (Program.request (.vmptrld vmcs)) cpu
      = (.ok (), { cpu.record (.vmptrld vmcs) with currentVmcs := some vmcs }) := by
  change cpu.vmptrld vmcs = _
  simp only [vmptrld, record, on, if_true]

/-! ## The interrupt flag -/

/-- Disabling and enabling interrupts leaves them enabled and every other flag as it was. -/
theorem rflags_restored (rflags : Word) :
    (rflags &&& ~~~rflagsIf) ||| rflagsIf = rflags ||| rflagsIf := by
  ext i
  simp only [BitVec.getElem_or, BitVec.getElem_and, BitVec.getElem_not]
  cases rflags[i] <;> cases rflagsIf[i] <;> rfl

/-- Interrupts that are enabled twice are enabled. -/
theorem rflags_enabled (rflags : Word) :
    rflags ||| rflagsIf ||| rflagsIf = rflags ||| rflagsIf := by
  rw [BitVec.or_assoc, BitVec.or_self]

/-- Without the interrupt flag, interrupts are disabled. -/
theorem interruptsEnabled_of_disabled {cpu : SimulatedProcessor} {rflags : Word}
    (h : cpu.rflags = rflags &&& ~~~rflagsIf) : cpu.interruptsEnabled = false := by
  have masked : (rflags &&& ~~~rflagsIf) &&& rflagsIf = 0 := by
    rw [BitVec.and_assoc, BitVec.and_comm (~~~rflagsIf), BitVec.and_not_self]
    simp
  rw [interruptsEnabled, h, masked]
  rfl

end VtxMonitor.SimulatedProcessor
