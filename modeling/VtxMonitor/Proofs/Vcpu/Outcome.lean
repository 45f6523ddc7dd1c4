import VtxMonitor.Proofs.Vcpu.BringUp

/-!
# Proofs/Vcpu/Outcome — when a virtualization succeeds, and why it fails otherwise

`verdict` reads the outcome of a virtualization off the state it starts in, without running it
(`outcome_eq_verdict`).  For a virtual processor whose memory does not wrap around, **the verdict is
the first of ten plain requirements that is violated** (`virtualize_outcome`).
-/

namespace VtxMonitor.Vcpu

open SimulatedProcessor (hardware)

variable (vcpu : Vcpu) (cpu : SimulatedProcessor)

/-! ## The outcome without the run -/

/-- The outcome of a virtualization, read off the state it starts in. -/
def verdict : Except Error Unit :=
  if vcpu.stage ≠ .off then .error (.alreadyVirtualized vcpu.index)
  else
    match cpu.checkOutcome, cpu.pageAddress "VMXON" vcpu.memory.vmxonAddress with
    | .error error, _ => .error error
    | .ok _, .error error => .error error
    | .ok _, .ok _ =>
        if cpu.vmxOperation = true ∨ cpu.adjustedCr4 &&& cr4Vmxe = 0 then
          .error (.vmxInstruction "VMXON" .invalid)
        else
          match cpu.physicalAddress vcpu.memory.vmcsAddress,
            cpu.physicalAddress vcpu.memory.msrBitmapAddress, cpu.launchFailure with
          | none, _, _ => .error (.unmappedAddress vcpu.memory.vmcsAddress)
          | some _, none, _ => .error (.unmappedAddress vcpu.memory.msrBitmapAddress)
          | some _, some _, some code => .error (.launchFailed (.ofCode code))
          | some _, some _, none => .ok ()

variable {vcpu : Vcpu} {cpu : SimulatedProcessor} {featureControl : FeatureControlState}

theorem EntersVmx.admitted {vmxon : Word} (enters : EntersVmx vcpu cpu vmxon) :
    cpu.pageAddress "VMXON" vcpu.memory.vmxonAddress = .ok vmxon ∧
      ¬(cpu.vmxOperation = true ∨ cpu.adjustedCr4 &&& cr4Vmxe = 0) := by
  refine ⟨SimulatedProcessor.pageAddress_eq_ok.2 ⟨enters.mapped, enters.aligned⟩, ?_⟩
  rintro (inside | refused)
  · exact absurd (enters.outside.symm.trans inside) (by decide)
  · exact enters.allowed refused

/-- A supported processor in stage `off` ends with the verdict on its bring-up. -/
theorem BringUpEnds.outcome_eq {execution : Execution Vcpu SimulatedProcessor Unit}
    (ends : BringUpEnds vcpu cpu featureControl execution) (off : vcpu.stage = .off)
    (supported : cpu.checkOutcome = .ok featureControl) : execution.outcome = verdict vcpu cpu := by
  rw [verdict, if_neg (not_not_intro off), supported]
  cases ends with
  | unusableVmxon unusable => rw [unusable]
  | refusedVmxon usable refused =>
      rw [usable]
      exact (if_pos refused).symm
  | unmappedVmcs enters unmapped =>
      obtain ⟨usable, admits⟩ := enters.admitted
      simp only [usable, admits, unmapped, if_false]
  | unmappedBitmap fills unmapped =>
      obtain ⟨usable, admits⟩ := fills.admitted
      simp only [usable, admits, fills.vmcsMapped, unmapped, if_false]
  | failedLaunch fills mapped failure =>
      obtain ⟨usable, admits⟩ := fills.admitted
      simp only [usable, admits, fills.vmcsMapped, mapped, failure, if_false]
  | launched fills mapped succeeds =>
      obtain ⟨usable, admits⟩ := fills.admitted
      simp only [usable, admits, fills.vmcsMapped, mapped, succeeds, if_false]

/-- **The outcome of a virtualization is its verdict.** -/
theorem outcome_eq_verdict :
    (hardware.execute vcpu cpu virtualize).outcome = verdict vcpu cpu := by
  have ends := virtualizeEnds vcpu cpu
  revert ends
  generalize hardware.execute vcpu cpu virtualize = execution
  intro ends
  cases ends with
  | alreadyVirtualized busy => rw [verdict, if_pos busy]
  | unsupported off fails => rw [verdict, if_neg (not_not_intro off), fails]
  | rolledBack off supported ran => exact (BringUpEnds.of_execute ran).outcome_eq off supported
  | launched off supported ran => exact (BringUpEnds.of_execute ran).outcome_eq off supported

/-- Something that a virtualization needs, and the error that reports its absence. -/
structure Requirement where
  holds : Bool
  error : Error

/-- The first requirement of a list that is violated. -/
def FirstViolated (requirements : List Requirement) (violated : Requirement) : Prop :=
  violated.holds = false ∧ ∃ before after, requirements = before ++ violated :: after ∧
    ∀ requirement ∈ before, requirement.holds = true

/-- The outcome of finding out about requirements in order. -/
def checkAll : List Requirement → Except Error Unit
  | [] => .ok ()
  | requirement :: rest => if requirement.holds then checkAll rest else .error requirement.error

theorem checkAll_eq_ok {requirements : List Requirement} :
    checkAll requirements = .ok () ↔ ∀ requirement ∈ requirements, requirement.holds = true := by
  induction requirements with
  | nil => simp [checkAll]
  | cons requirement rest ih =>
      rw [checkAll, List.forall_mem_cons, ← ih]
      cases requirement.holds <;> simp

theorem firstViolated_cons {requirement violated : Requirement} {rest : List Requirement} :
    FirstViolated (requirement :: rest) violated
      ↔ requirement.holds = false ∧ violated = requirement ∨
        requirement.holds = true ∧ FirstViolated rest violated := by
  constructor
  · rintro ⟨fails, _ | ⟨first, before⟩, after, split, all⟩
    · obtain ⟨rfl, rfl⟩ := List.cons.inj split
      exact .inl ⟨fails, rfl⟩
    · obtain ⟨rfl, rfl⟩ := List.cons.inj split
      obtain ⟨holds, all⟩ := List.forall_mem_cons.1 all
      exact .inr ⟨holds, fails, before, after, rfl, all⟩
  · rintro (⟨fails, rfl⟩ | ⟨holds, fails, before, after, rfl, all⟩)
    · exact ⟨fails, [], rest, rfl, nofun⟩
    · exact ⟨fails, requirement :: before, after, rfl, List.forall_mem_cons.2 ⟨holds, all⟩⟩

theorem checkAll_eq_error {requirements : List Requirement} {error : Error} :
    checkAll requirements = .error error
      ↔ ∃ violated, FirstViolated requirements violated ∧ violated.error = error := by
  induction requirements with
  | nil => simp [checkAll, FirstViolated]
  | cons requirement rest ih =>
      rw [checkAll]
      cases holds : requirement.holds <;> simp [firstViolated_cons, holds, ih]

/-- One requirement at a time. -/
theorem eq_checkAll_cons {holds : Bool} {error : Error} {rest : List Requirement}
    {outcome : Except Error Unit} (ifViolated : holds = false → outcome = .error error)
    (ifHolds : holds = true → outcome = checkAll rest) :
    outcome = checkAll (⟨holds, error⟩ :: rest) := by
  cases holds with
  | false => exact ifViolated rfl
  | true => exact ifHolds rfl

variable (vcpu cpu)

/-- What a virtualization needs, in the order in which it is found out.  Addresses and sums are
unbounded numbers here. -/
def requirements : List Requirement :=
  let base := vcpu.memory.base.toNat
  let offset := cpu.physicalOffset.toNat
  let featureControl := cpu.msrs Msr.featureControl
  [⟨vcpu.stage = .off, .alreadyVirtualized vcpu.index⟩,
    ⟨(cpu.cpuid 1).ecx.getLsbD 5, .vmxNotSupported⟩,
    ⟨!featureControl.getLsbD 0 || featureControl.getLsbD 2, .vmxLockedOff⟩,
    ⟨base + 0x6000 + offset < 2 ^ 64, .unmappedAddress (vcpu.memory.base + 0x6000)⟩,
    ⟨(base + 0x6000 + offset) % 4096 = 0,
      .misalignedRegion "VMXON" (vcpu.memory.base + 0x6000 + cpu.physicalOffset)⟩,
    ⟨!cpu.vmxOperation, .vmxInstruction "VMXON" .invalid⟩,
    ⟨(cpu.msrs Msr.cr4Fixed1).getLsbD 13, .vmxInstruction "VMXON" .invalid⟩,
    ⟨base + 0x7000 + offset < 2 ^ 64, .unmappedAddress (vcpu.memory.base + 0x7000)⟩,
    ⟨base + 0x8000 + offset < 2 ^ 64, .unmappedAddress (vcpu.memory.base + 0x8000)⟩,
    ⟨cpu.launchFailure = none, .launchFailed (.ofCode (cpu.launchFailure.getD 0))⟩]

/-! ## Single bits -/

theorem twoPow_ne_zero {w i : Nat} (h : i < w) : BitVec.twoPow w i ≠ 0#w := by
  intro zero
  have bit := congrArg (BitVec.getLsbD · i) zero
  simp [h] at bit

theorem and_twoPow_eq_zero {w i : Nat} (h : i < w) (x : BitVec w) :
    x &&& BitVec.twoPow w i = 0 ↔ x.getLsbD i = false := by
  rw [BitVec.and_twoPow]
  cases x.getLsbD i with
  | false => simp
  | true => simpa using twoPow_ne_zero h

theorem isSetIn_eq_getLsbD {w : Nat} (flag : Flag w) (h : flag.bit < w) (x : BitVec w) :
    flag.isSetIn x = x.getLsbD flag.bit := by
  have mask : flag.mask = BitVec.twoPow w flag.bit := rfl
  rw [Flag.isSetIn, mask, BitVec.and_twoPow]
  cases x.getLsbD flag.bit with
  | false => simpa using (twoPow_ne_zero h).symm
  | true => simp

/-! ## The verdict names the first violation -/

variable {vcpu cpu}

theorem checkOutcome_eq :
    cpu.checkOutcome
      = if (cpu.cpuid 1).ecx.getLsbD 5 then
          if (cpu.msrs Msr.featureControl).getLsbD 0 then
            if (cpu.msrs Msr.featureControl).getLsbD 2 then .ok .enabled else .error .vmxLockedOff
          else .ok .unlocked
        else .error .vmxNotSupported := by
  have vmx := and_twoPow_eq_zero (show 5 < 32 by decide) (cpu.cpuid 1).ecx
  have bit : Support.cpuidVmx = BitVec.twoPow 32 5 := by decide
  have locked : FeatureControl.locked.isSetIn (cpu.msrs Msr.featureControl)
      = (cpu.msrs Msr.featureControl).getLsbD 0 := isSetIn_eq_getLsbD _ (by decide) _
  have outside : FeatureControl.vmxOutsideSmx.isSetIn (cpu.msrs Msr.featureControl)
      = (cpu.msrs Msr.featureControl).getLsbD 2 := isSetIn_eq_getLsbD _ (by decide) _
  simp only [SimulatedProcessor.checkOutcome, bit, vmx, locked, outside]
  cases (cpu.cpuid 1).ecx.getLsbD 5 <;>
    cases (cpu.msrs Msr.featureControl).getLsbD 0 <;>
    cases (cpu.msrs Msr.featureControl).getLsbD 2 <;> rfl

/-- CR4.VMXE survives the adjustment exactly if IA32_VMX_CR4_FIXED1 allows it. -/
theorem adjustedCr4_eq_zero :
    cpu.adjustedCr4 &&& cr4Vmxe = 0 ↔ (cpu.msrs Msr.cr4Fixed1).getLsbD 13 = false := by
  have bit : cr4Vmxe = BitVec.twoPow 64 13 := by decide
  rw [SimulatedProcessor.adjustedCr4, bit, and_twoPow_eq_zero (by decide), fixedBits]
  simp

/-- An address of memory that does not wrap around. -/
theorem physicalAddress_add {base distance : Word} {d : Nat} (hd : distance.toNat = d)
    (fits : base.toNat + d < 2 ^ 64) :
    cpu.physicalAddress (base + distance)
      = if base.toNat + d + cpu.physicalOffset.toNat < 2 ^ 64 then
          some (base + distance + cpu.physicalOffset)
        else none := by
  subst hd
  rw [SimulatedProcessor.physicalAddress_eq, BitVec.toNat_add_of_lt fits]

theorem pageAddress_add (region : String) {base distance : Word} {d : Nat}
    (hd : distance.toNat = d) (fits : base.toNat + d < 2 ^ 64) :
    cpu.pageAddress region (base + distance)
      = if base.toNat + d + cpu.physicalOffset.toNat < 2 ^ 64 then
          if (base.toNat + d + cpu.physicalOffset.toNat) % 4096 = 0 then
            .ok (base + distance + cpu.physicalOffset)
          else .error (.misalignedRegion region (base + distance + cpu.physicalOffset))
        else .error (.unmappedAddress (base + distance)) := by
  rw [SimulatedProcessor.pageAddress, physicalAddress_add hd fits]
  subst hd
  by_cases maps : base.toNat + distance.toNat + cpu.physicalOffset.toNat < 2 ^ 64
  · have sum : (base + distance + cpu.physicalOffset).toNat
        = base.toNat + distance.toNat + cpu.physicalOffset.toNat := by
      rw [BitVec.toNat_add, BitVec.toNat_add_of_lt fits, Nat.mod_eq_of_lt maps]
    simp only [maps, if_true, SimulatedProcessor.aligned_iff, sum]
  · simp only [maps, if_false]

/-- **The verdict is what the requirements say**, one after the other. -/
theorem verdict_eq (fits : vcpu.memory.base.toNat + VcpuMemory.size.toNat ≤ 2 ^ 64) :
    verdict vcpu cpu = checkAll (requirements vcpu cpu) := by
  have room : vcpu.memory.base.toNat + 0xc000 ≤ 2 ^ 64 := fits
  have vmxon : cpu.pageAddress "VMXON" (vcpu.memory.base + 0x6000) = _ :=
    pageAddress_add "VMXON" (show _ = 0x6000 from rfl) (by omega)
  have vmcs : cpu.physicalAddress (vcpu.memory.base + 0x7000) = _ :=
    physicalAddress_add (show _ = 0x7000 from rfl) (by omega)
  have bitmap : cpu.physicalAddress (vcpu.memory.base + 0x8000) = _ :=
    physicalAddress_add (show _ = 0x8000 from rfl) (by omega)
  rw [verdict, VcpuMemory.vmxonAddress, VcpuMemory.vmcsAddress, VcpuMemory.msrBitmapAddress, vmxon,
    vmcs, bitmap, checkOutcome_eq]
  refine eq_checkAll_cons (fun busy => ?_) fun off => ?_
  · rw [if_pos (of_decide_eq_false busy)]
  rw [if_neg (not_not_intro (of_decide_eq_true off))]
  refine eq_checkAll_cons (fun missing => ?_) fun supported => ?_
  · rw [missing, if_neg Bool.false_ne_true]
  rw [supported, if_pos rfl]
  refine eq_checkAll_cons (fun lockedOff => ?_) fun allowed => ?_
  · obtain ⟨locked, outside⟩ : (cpu.msrs Msr.featureControl).getLsbD 0 = true ∧
        (cpu.msrs Msr.featureControl).getLsbD 2 = false := by simpa using lockedOff
    rw [locked, outside, if_pos rfl, if_neg Bool.false_ne_true]
  obtain ⟨featureControl, checked⟩ : ∃ featureControl : FeatureControlState,
      (if (cpu.msrs Msr.featureControl).getLsbD 0 = true then
        if (cpu.msrs Msr.featureControl).getLsbD 2 = true then .ok .enabled
        else .error Error.vmxLockedOff
      else .ok .unlocked) = Except.ok featureControl := by
    rcases Bool.or_eq_true_iff.1 allowed with unlocked | outside
    · rw [if_neg (by simpa using unlocked)]
      exact ⟨.unlocked, rfl⟩
    · rw [if_pos outside]
      split
      · exact ⟨.enabled, rfl⟩
      · exact ⟨.unlocked, rfl⟩
  rw [checked]
  refine eq_checkAll_cons (fun unmapped => ?_) fun mapped => ?_
  · rw [if_neg (of_decide_eq_false unmapped)]
  rw [if_pos (of_decide_eq_true mapped)]
  refine eq_checkAll_cons (fun misaligned => ?_) fun aligned => ?_
  · rw [if_neg (of_decide_eq_false misaligned)]
  rw [if_pos (of_decide_eq_true aligned)]
  dsimp only
  refine eq_checkAll_cons (fun inside => ?_) fun outside => ?_
  · rw [if_pos (.inl (by simpa using inside))]
  refine eq_checkAll_cons (fun forbidden => ?_) fun permitted => ?_
  · rw [if_pos (.inr (adjustedCr4_eq_zero.2 forbidden))]
  have admits : ¬(cpu.vmxOperation = true ∨ cpu.adjustedCr4 &&& cr4Vmxe = 0) := by
    rw [adjustedCr4_eq_zero, permitted]
    simpa using outside
  rw [if_neg admits]
  refine eq_checkAll_cons (fun unmapped => ?_) fun vmcsMapped => ?_
  · rw [if_neg (of_decide_eq_false unmapped)]
  rw [if_pos (of_decide_eq_true vmcsMapped)]
  refine eq_checkAll_cons (fun unmapped => ?_) fun bitmapMapped => ?_
  · rw [if_neg (of_decide_eq_false unmapped)]
  rw [if_pos (of_decide_eq_true bitmapMapped)]
  refine eq_checkAll_cons (fun fails => ?_) fun succeeds => ?_
  · cases failure : cpu.launchFailure with
    | none => exact absurd failure (of_decide_eq_false fails)
    | some code => rfl
  · rw [of_decide_eq_true succeeds]
    rfl

/-! ## The exact outcome -/

/-- A successful bring-up launches the guest from the virtual processor's own VMCS. -/
theorem BringUpEnds.runs {execution : Execution Vcpu SimulatedProcessor Unit}
    (ends : BringUpEnds vcpu cpu featureControl execution) (succeeds : execution.outcome = .ok ()) :
    execution.record.stage = .launched ∧ execution.state.launched = true ∧
      execution.state.currentVmcs = some (vcpu.memory.vmcsAddress + cpu.physicalOffset) := by
  obtain ⟨vmxon, vmcs, fields, fills, rfl⟩ := ends.of_ok succeeds
  obtain ⟨-, rfl⟩ := SimulatedProcessor.physicalAddress_eq_some.1 fills.vmcsMapped
  exact ⟨rfl, rfl, rfl⟩

/-- **The exact outcome of a virtualization** whose memory lies below 2^64: it succeeds exactly if
every requirement holds, it fails with the error of the first requirement that is violated, and on
success the guest runs from the virtual processor's own VMCS. -/
theorem virtualize_outcome (fits : vcpu.memory.base.toNat + VcpuMemory.size.toNat ≤ 2 ^ 64) :
    let execution := hardware.execute vcpu cpu virtualize
    (execution.outcome = .ok () ↔
      ∀ requirement ∈ requirements vcpu cpu, requirement.holds = true) ∧
    (∀ error, execution.outcome = .error error ↔
      ∃ violated, FirstViolated (requirements vcpu cpu) violated ∧ violated.error = error) ∧
    (execution.outcome = .ok () →
      execution.record.stage = .launched ∧ execution.state.launched = true ∧
        execution.state.currentVmcs = some (vcpu.memory.vmcsAddress + cpu.physicalOffset)) := by
  intro execution
  have outcome : execution.outcome = checkAll (requirements vcpu cpu) :=
    outcome_eq_verdict.trans (verdict_eq fits)
  refine ⟨?_, fun error => ?_, fun succeeds => ?_⟩
  · rw [outcome, checkAll_eq_ok]
  · rw [outcome, checkAll_eq_error]
  · obtain ⟨featureControl, -, -, ran⟩ := (virtualizeEnds vcpu cpu).of_ok succeeds
    exact (BringUpEnds.of_execute ran).runs succeeds

/-- A processor after reset runs the guest. -/
theorem virtualize_outcome_reset :
    let vcpu := fresh 0 0x1c000 0x10000 .empty {}
    vcpu.memory.base.toNat + VcpuMemory.size.toNat ≤ 2 ^ 64 ∧
    (hardware.execute vcpu .reset virtualize).outcome = .ok () ∧
    (hardware.execute vcpu .reset virtualize).state.currentVmcs = some 0x17000 := by
  intro vcpu
  have fits : vcpu.memory.base.toNat + VcpuMemory.size.toNat ≤ 2 ^ 64 := by decide
  have address : vcpu.memory.vmcsAddress + SimulatedProcessor.reset.physicalOffset = 0x17000 := by
    decide
  obtain ⟨ok, -, runs⟩ := @virtualize_outcome vcpu .reset fits
  have succeeds := ok.2 (by decide)
  exact ⟨fits, succeeds, by rw [← address]; exact (runs succeeds).2.2⟩

end VtxMonitor.Vcpu
