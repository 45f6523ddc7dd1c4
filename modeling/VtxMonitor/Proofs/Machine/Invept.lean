import VtxMonitor.Proofs.Vcpu.Refusals

/-!
# Proofs/Machine/Invept — INVEPT is executed only where it is reported, and rolled back if it fails

A machine works through a chain of capability MSRs before INVEPT and stops at the first one that
does not say that the next step exists, so **no MSR is read that may be absent** and INVEPT is
executed exactly where it is reported (`inveptAll_guards`).  An INVEPT that fails ends a bring-up in
VMX operation, and what is left is undone by a VMXOFF (`invept_guarded`).
-/

namespace VtxMonitor

/-! ## Status flags -/

namespace StatusFlags

variable {flags : StatusFlags}

theorem outcome_ok_iff : flags.outcome = .ok () ↔ flags.carry = false ∧ flags.zero = false := by
  rcases flags with ⟨_ | _, _ | _⟩ <;> simp [outcome]

theorem outcome_valid_iff :
    flags.outcome = .error .valid ↔ flags.carry = false ∧ flags.zero = true := by
  rcases flags with ⟨_ | _, _ | _⟩ <;> simp [outcome]

/-- The carry flag takes precedence. -/
theorem outcome_invalid_iff : flags.outcome = .error .invalid ↔ flags.carry = true := by
  rcases flags with ⟨_ | _, _ | _⟩ <;> simp [outcome]

end StatusFlags

namespace Machine

open PrivilegedInstruction (rdmsr vmxoff cli movToCr sti)

/-! ## The chain of guards -/

/-- INVEPT for all contexts, with an empty descriptor. -/
def inveptInstruction : PrivilegedInstruction := .invept inveptAllContexts 0 0

/-- Everything that can be executed to invalidate the cached mappings, in order. -/
def inveptChain : List PrivilegedInstruction :=
  [rdmsr Msr.procBasedCtls, rdmsr Msr.procBasedCtls2, rdmsr Msr.eptVpidCap, inveptInstruction]

/-- How invalidating the cached mappings of a machine is guarded, by the capability MSRs, and what
it returns, by the flags that INVEPT leaves. -/
structure GuardsInvept (m : Machine) (reply : Except VmFail Unit)
    (trace : List PrivilegedInstruction) : Prop where
  order : trace <+: inveptChain
  secondary : rdmsr Msr.procBasedCtls2 ∈ trace ↔ (m.msrs Msr.procBasedCtls).getLsbD 63
  ept : rdmsr Msr.eptVpidCap ∈ trace ↔
    (m.msrs Msr.procBasedCtls).getLsbD 63 ∧ (m.msrs Msr.procBasedCtls2).getLsbD 33
  executes : inveptInstruction ∈ trace ↔
    (m.msrs Msr.procBasedCtls).getLsbD 63 ∧ (m.msrs Msr.procBasedCtls2).getLsbD 33 ∧
      (m.msrs Msr.eptVpidCap).getLsbD 20 ∧ (m.msrs Msr.eptVpidCap).getLsbD 26
  skips : inveptInstruction ∉ trace → reply = .ok ()
  succeeds : inveptInstruction ∈ trace →
    (reply = .ok () ↔ m.invept.carry = false ∧ m.invept.zero = false)
  failsValid : inveptInstruction ∈ trace →
    (reply = .error .valid ↔ m.invept.carry = false ∧ m.invept.zero = true)
  failsInvalid : inveptInstruction ∈ trace → (reply = .error .invalid ↔ m.invept.carry = true)

/-- What is executed to invalidate the cached mappings. -/
def inveptTrace (m : Machine) : List PrivilegedInstruction :=
  m.guardMsrs.map .rdmsr ++ if m.inveptSupported then [inveptInstruction] else []

theorem inveptAll_eq (m : Machine) :
    m.inveptAll = (if m.inveptSupported then m.invept.outcome else .ok (),
      m.execute m.inveptTrace) := by
  rw [inveptAll, inveptTrace]
  split
  · rw [execute, execute, execute, List.append_assoc]
    rfl
  · rw [List.append_nil]

/-- How far into the chain the capability MSRs lead. -/
def inveptReach (m : Machine) : Nat :=
  if !m.allowsSecondary then 1 else if !m.allowsEpt then 2 else if !m.reportsInvept then 3 else 4

theorem inveptTrace_eq_take (m : Machine) : m.inveptTrace = inveptChain.take m.inveptReach := by
  unfold inveptTrace guardMsrs inveptSupported inveptReach
  cases m.allowsSecondary with
  | false => rfl
  | true =>
      cases m.allowsEpt with
      | false => rfl
      | true => cases m.reportsInvept <;> rfl

theorem mem_take_inveptChain (reach : Nat) :
    (rdmsr Msr.procBasedCtls2 ∈ inveptChain.take reach ↔ 2 ≤ reach) ∧
    (rdmsr Msr.eptVpidCap ∈ inveptChain.take reach ↔ 3 ≤ reach) ∧
    (inveptInstruction ∈ inveptChain.take reach ↔ 4 ≤ reach) := by
  match reach with
  | 0 | 1 | 2 | 3 => decide
  | reach + 4 =>
    rw [List.take_of_length_le (by simp [inveptChain])]
    refine ⟨iff_of_true ?_ ?_, iff_of_true ?_ ?_, iff_of_true ?_ ?_⟩ <;>
      first | omega | decide

theorem le_inveptReach (m : Machine) :
    (2 ≤ m.inveptReach ↔ m.allowsSecondary) ∧
    (3 ≤ m.inveptReach ↔ m.allowsSecondary ∧ m.allowsEpt) ∧
    (4 ≤ m.inveptReach ↔ m.allowsSecondary ∧ m.allowsEpt ∧ m.reportsInvept) := by
  unfold inveptReach
  cases m.allowsSecondary <;> cases m.allowsEpt <;> cases m.reportsInvept <;> decide

/-- **INVEPT is guarded by the capability MSRs.** -/
theorem inveptAll_guards (m : Machine) : m.GuardsInvept m.inveptAll.1 m.inveptTrace := by
  obtain ⟨secondary, ept, executes⟩ := mem_take_inveptChain m.inveptReach
  obtain ⟨two, three, four⟩ := m.le_inveptReach
  rw [two] at secondary
  rw [three] at ept
  rw [four] at executes
  rw [inveptTrace_eq_take, inveptAll_eq]
  have supported : inveptInstruction ∈ inveptChain.take m.inveptReach ↔ m.inveptSupported := by
    rw [executes, inveptSupported, Bool.and_eq_true, Bool.and_eq_true, and_assoc]
  refine ⟨List.take_prefix _ _, secondary, ept, ?_, fun skipped => ?_, ?_, ?_, ?_⟩
  · rw [executes, reportsInvept, Bool.and_eq_true]
    rfl
  · exact if_neg (mt supported.2 skipped)
  · intro run
    rw [if_pos (supported.1 run), StatusFlags.outcome_ok_iff]
  · intro run
    rw [if_pos (supported.1 run), StatusFlags.outcome_valid_iff]
  · intro run
    rw [if_pos (supported.1 run), StatusFlags.outcome_invalid_iff]

/-! ## Rolling back -/

/-- The machine after VMX operation is left and the control registers are restored. -/
def rolledBack (m : Machine) (cr0 cr4 : Word) : Machine :=
  { m with
    cr0, cr4
    rflags := m.rflags &&& ~~~rflagsIf ||| rflagsIf
    executed := m.executed ++ [vmxoff, cli, movToCr .cr4 cr4, movToCr .cr0 cr0, sti] }

theorem run_undoVmx {vcpu : Vcpu} (on : vcpu.stage = .vmxOn) (m : Machine) :
    hardware.run vcpu.undoVmx m = ((), m.rolledBack vcpu.savedCr0 vcpu.savedCr4) := by
  let masked := { (m.execute [vmxoff]).execute [cli] with rflags := m.rflags &&& ~~~rflagsIf }
  let restored := ((masked.execute [movToCr .cr4 vcpu.savedCr4]).setCr .cr4 vcpu.savedCr4).execute
    [movToCr .cr0 vcpu.savedCr0] |>.setCr .cr0 vcpu.savedCr0
  have ran : hardware.run vcpu.undoVmx m
      = ((), { restored.execute [sti] with rflags := restored.rflags ||| rflagsIf }) := by
    unfold Vcpu.undoVmx
    rw [on]
    rfl
  rw [ran]
  simp only [restored, masked, execute, setCr, rolledBack, List.append_assoc, List.cons_append,
    List.nil_append]

/-- **A teardown from VMX operation leaves it by a VMXOFF.** -/
theorem run_teardown_vmxOn {vcpu : Vcpu} (on : vcpu.stage = .vmxOn) (m : Machine) :
    hardware.run (Vcpu.teardown.run vcpu) m
      = (((), vcpu.atStage .off), m.rolledBack vcpu.savedCr0 vcpu.savedCr4) := by
  have pending : vcpu.stage ≠ .launched := by
    rw [on]
    exact nofun
  have early : ¬vcpu.stage.reached .vmcsLoaded := by
    rw [on]
    decide
  rw [Vcpu.teardown_eq vcpu pending, Vcpu.undo_of_not_reached early, Hardware.run_bind,
    run_undoVmx on]
  rfl

/-- A machine ignores the report, so giving up from VMX operation comes down to the teardown. -/
theorem givenUp_vmxOn {vcpu : Vcpu} (on : vcpu.stage = .vmxOn) (index : BitVec 32) (error : Error)
    (m : Machine) :
    Vcpu.givenUp hardware index error vcpu m
      = (vcpu.atStage .off, m.rolledBack vcpu.savedCr0 vcpu.savedCr4) := by
  have reported : Vcpu.givenUp hardware index error vcpu m
      = ((hardware.run (Vcpu.teardown.run vcpu) m).1.2,
        (hardware.run (Vcpu.teardown.run vcpu) m).2) := rfl
  rw [reported, run_teardown_vmxOn on]

/-! ## The result -/

/-- **INVEPT is guarded**, whatever the capability MSRs hold: by these, and in that an INVEPT that
fails lets entering VMX operation and any virtualization fail with its error.  Entering stops in VMX
operation, from where a teardown leaves it by a VMXOFF and restores the control registers that are
saved; a virtualization that fails has restored those that it found. -/
theorem invept_guarded (m : Machine) :
    ∃ reply trace, hardware.answer .inveptAll m = (reply, m.execute trace) ∧
      m.GuardsInvept reply trace ∧
      ∀ fail, reply = .error fail → ∀ (vcpu : Vcpu) (start : Machine),
        ((.inveptAll, m) ∈ hardware.stepsOf vcpu start Vcpu.enterVmx →
          ∃ entered, hardware.execute vcpu start Vcpu.enterVmx
              = ⟨.error (.vmxInstruction "INVEPT" fail), entered, m.execute trace⟩ ∧
            entered.stage = .vmxOn ∧
            hardware.run (Vcpu.teardown.run entered) (m.execute trace)
              = (((), entered.atStage .off),
                (m.execute trace).rolledBack vcpu.savedCr0 vcpu.savedCr4)) ∧
        ((.inveptAll, m) ∈ hardware.stepsOf vcpu start Vcpu.virtualize →
          ∃ record, record.stage = .off ∧
            hardware.execute vcpu start Vcpu.virtualize
              = ⟨.error (.vmxInstruction "INVEPT" fail), record,
                (m.execute trace).rolledBack start.cr0 start.cr4⟩) := by
  have answered : m.inveptAll = (m.inveptAll.1, m.execute m.inveptTrace) :=
    Prod.ext rfl (by rw [inveptAll_eq])
  refine ⟨m.inveptAll.1, m.inveptTrace, answered, m.inveptAll_guards,
    fun fail fails vcpu start => ?_⟩
  have refused : hardware.answer .inveptAll m = (.error fail, m.execute m.inveptTrace) := by
    rw [← fails]
    exact answered
  constructor
  · intro mem
    obtain ⟨_, entered, _, execution, rfl, rfl, on, saved⟩ :=
      Vcpu.enterVmx_stops refused vcpu.saved vcpu start rfl mem
    obtain ⟨cr0, cr4⟩ := Prod.mk.inj saved
    refine ⟨entered, execution, on, ?_⟩
    rw [run_teardown_vmxOn on, cr0, cr4]
  · intro mem
    obtain ⟨index, entered, on, saved, execution⟩ :=
      Vcpu.virtualize_stops_invept registerFile refused vcpu start mem
    obtain ⟨cr0, cr4⟩ := Prod.mk.inj saved
    refine ⟨entered.atStage .off, rfl, execution.trans ?_⟩
    rw [givenUp_vmxOn on, cr0, cr4]
    rfl

/-- A machine that reports INVEPT for all contexts and lets it fail with both flags set. -/
def failingInvept : Machine where
  cpuid _ _ := { ecx := 0x20 }
  msrs msr :=
    if msr = Msr.featureControl then 5
    else if msr = Msr.procBasedCtls then 0x8000000000000000
    else if msr = Msr.procBasedCtls2 then 0x200000000
    else if msr = Msr.eptVpidCap then 0x4100000 else 0
  cr4 := 0x20
  addressMap := some some
  invept := ⟨true, true⟩

/-- A virtualization of the failing machine, and a machine without secondary controls. -/
theorem invept_guarded_failing :
    let ended := hardware.execute (.fresh 0 0x1c000 0x10000 .empty {}) failingInvept Vcpu.virtualize
    (ended.outcome = .error (.vmxInstruction "INVEPT" .invalid) ∧ ended.record.stage = .off ∧
      ended.state.cr4 = 0x20) ∧
    ∃ trace, hardware.answer .inveptAll {} = (.ok (), execute trace {}) ∧
      rdmsr Msr.procBasedCtls2 ∉ trace := by
  obtain ⟨m, mem, found⟩ := Operation.exists_mem_of_any Operation.eq_of_isInveptAll
    (fun m : Machine => m.inveptSupported && m.invept == ⟨true, true⟩)
    (show (hardware.stepsOf (.fresh 0 0x1c000 0x10000 .empty {}) failingInvept
      Vcpu.virtualize).any _ = true by decide +kernel)
  obtain ⟨supported, flags⟩ : m.inveptSupported ∧ m.invept = ⟨true, true⟩ := by
    simpa using found
  obtain ⟨_, _, -, guards, rollsBack⟩ := invept_guarded m
  have reported : (m.msrs Msr.procBasedCtls).getLsbD 63 ∧ (m.msrs Msr.procBasedCtls2).getLsbD 33 ∧
      (m.msrs Msr.eptVpidCap).getLsbD 20 ∧ (m.msrs Msr.eptVpidCap).getLsbD 26 := by
    simpa [inveptSupported, allowsSecondary, allowsEpt, reportsInvept, and_assoc] using supported
  have fails := (guards.failsInvalid (guards.executes.2 reported)).2 (by rw [flags])
  obtain ⟨record, off, execution⟩ := (rollsBack .invalid fails _ _).2 mem
  obtain ⟨_, trace, answered, guards', -⟩ := invept_guarded {}
  have unread : rdmsr Msr.procBasedCtls2 ∉ trace := mt guards'.secondary.1 (by decide)
  rw [guards'.skips (mt guards'.executes.1 (by decide))] at answered
  refine ⟨⟨?_, ?_, ?_⟩, trace, answered, unread⟩
  · rw [execution]
  · rw [execution, off]
  · rw [execution]
    rfl

end Machine

end VtxMonitor
