import VtxMonitor.Proofs.Vcpu.Refusals

/-!
# Proofs/Vcpu/LaunchFailure — a failed launch reports the error number of the processor

Error numbers and their meanings determine each other (`code_ofCode`, `ofCode_injective`,
`ofCode_code_iff`), so nothing of a number is lost in an error.  **A launch that VMLAUNCH refuses
returns the number that the VMCS holds right then** (`launch_reports_errorNumber`): before a
teardown clears the VMCS, and only if there is a current VMCS for the number to be in.
-/

namespace VtxMonitor

namespace InstructionError

/-- The numbers that have a meaning of their own. -/
def Assigned (code : BitVec 32) : Prop := code.toNat ≤ 28 ∧ code.toNat ∉ [14, 21, 27]

@[simp] theorem code_ofCode (code : BitVec 32) : (ofCode code).code = code := by
  unfold ofCode
  split <;> first | rfl | exact BitVec.eq_of_toNat_eq (Eq.symm ‹_›)

theorem ofCode_injective : Function.Injective ofCode :=
  Function.LeftInverse.injective code_ofCode

theorem ofCode_eq_unknown_iff {code : BitVec 32} :
    ofCode code = .unknown code ↔ ¬Assigned code := by
  constructor
  · rintro unknown ⟨bounded, gaps⟩
    simp only [List.mem_cons, List.not_mem_nil, or_false, not_or] at gaps
    unfold ofCode at unknown
    -- What is left is the last row, behind every number that has a meaning.
    split at unknown <;> cases unknown
    grind
  · intro unassigned
    unfold ofCode
    split <;> first | rfl | exact absurd (by rw [Assigned, ‹code.toNat = _›]; decide) unassigned

/-- **The meaning of the number of an error is that error**, unless it calls a number unknown that
has a meaning. -/
theorem ofCode_code_iff {error : InstructionError} :
    ofCode error.code = error ↔ ∀ code, Assigned code → error ≠ .unknown code := by
  cases error with
  | unknown code =>
      rw [InstructionError.code, ofCode_eq_unknown_iff]
      exact ⟨fun unassigned _ assigned same => unassigned (unknown.inj same ▸ assigned),
        fun apart assigned => apart code assigned rfl⟩
  | _ => exact ⟨fun _ _ _ => nofun, fun _ => rfl⟩

end InstructionError

open InstructionError (Assigned ofCode)

variable {σ : Type}

/-! ## What explains a failed launch -/

/-- What is read in a state from the field for the error number. -/
def Hardware.errorNumber (hw : Hardware σ) (s : σ) : Except VmFail Word :=
  (hw.answer (.vmread .instructionError) s).1

/-- Hardware that lets the error number be read behind a VMLAUNCH that fails with VMfailValid. -/
def Hardware.RecordsErrors (hw : Hardware σ) : Prop :=
  ∀ s failed, hw.answer .vmlaunch s = (.error .valid, failed) →
    ∃ number, hw.errorNumber failed = .ok number

/-- How a launch that fails is explained, from the state that VMLAUNCH leaves: by the number in the
VMCS, if VMLAUNCH says that there is one, and by nothing otherwise. -/
def Hardware.Explains (hw : Hardware σ) (failed : σ) (cause : InstructionError) : VmFail → Prop
  | .valid => ∀ number, hw.errorNumber failed = .ok number → cause.code = number.setWidth 32
  | .invalid => cause = .notAvailable

namespace Vcpu

theorem launchCause_explains (hw : Hardware σ) (fail : VmFail) (failed : σ) :
    hw.Explains failed (launchCause hw fail failed) fail := by
  cases fail with
  | invalid => rfl
  | valid =>
      intro number reads
      have read : hw.run (Vmcs.read .instructionError).run failed
          = (.ok number, (hw.answer (.vmread .instructionError) failed).2) :=
        Prod.ext (congrArg (Except.mapError (Error.vmcsAccess .instructionError)) reads) rfl
      have decoded : hw.run Vmcs.readInstructionError.run failed
          = (.ok (ofCode (number.setWidth 32)),
            (hw.answer (.vmread .instructionError) failed).2) := by
        rw [Vmcs.readInstructionError, Hardware.run_procedure_ok hw read]
        rfl
      have cause : launchCause hw .valid failed = ofCode (number.setWidth 32) := by
        rw [launchCause, Vmcs.launchError, Procedure.orElse, Hardware.run_bind, decoded]
        rfl
      rw [cause, InstructionError.code_ofCode]

end Vcpu

/-- VMLAUNCH fails with VMfailValid only with a current VMCS. -/
theorem SimulatedProcessor.recordsErrors : hardware.RecordsErrors := by
  intro cpu failed refused
  have answered : cpu.vmlaunch = (.error .valid, failed) := refused
  cases current : cpu.currentVmcs with
  | none =>
      rw [vmlaunch, record, current] at answered
      cases answered
  | some vmcs =>
      have isSome : cpu.currentVmcs.isSome := Option.isSome_iff_exists.2 ⟨vmcs, current⟩
      rw [vmlaunch_of_current isSome] at answered
      cases failure : cpu.launchFailure with
      | none =>
          rw [failure] at answered
          cases answered
      | some code =>
          rw [failure] at answered
          obtain ⟨-, rfl⟩ := Prod.mk.inj answered
          have kept : (cpu.withFailedLaunch code).currentVmcs.isSome := isSome
          exact ⟨_, vmread_of_current kept .instructionError⟩

/-- On a machine every field can be read at any time. -/
theorem Machine.recordsErrors : hardware.RecordsErrors :=
  fun _ failed _ => ⟨failed.field .instructionError, rfl⟩

/-! ## The result -/

/-- **Launch failures report the hardware's error number.**  The numbers and their meanings are in
accord; and whenever VMLAUNCH is refused, on any hardware, the launch and any virtualization that
has come to it fail with the number that the VMCS holds in the state VMLAUNCH left, or without a
number where VMLAUNCH says that there is none. -/
theorem launch_reports_errorNumber :
    (∀ code, (ofCode code).code = code) ∧ Function.Injective ofCode ∧
    (∀ error, ofCode error.code = error ↔ ∀ code, Assigned code → error ≠ .unknown code) ∧
    (SimulatedProcessor.hardware.RecordsErrors ∧ Machine.hardware.RecordsErrors) ∧
    ∀ {σ : Type} (hw : Hardware σ) {fail : VmFail} {s failed : σ},
      hw.answer .vmlaunch s = (.error fail, failed) →
      ∃ cause, hw.Explains failed cause fail ∧
        (hw.run Vmcs.launch.run s).1 = .error (.launchFailed cause) ∧
        ∀ (vcpu : Vcpu) (start : σ), (.vmlaunch, s) ∈ hw.stepsOf vcpu start Vcpu.virtualize →
          (hw.execute vcpu start Vcpu.virtualize).outcome = .error (.launchFailed cause) := by
  refine ⟨InstructionError.code_ofCode, InstructionError.ofCode_injective,
    fun _ => InstructionError.ofCode_code_iff,
    ⟨SimulatedProcessor.recordsErrors, Machine.recordsErrors⟩, fun hw fail s failed refused => ?_⟩
  exact ⟨Vcpu.launchCause hw fail failed, Vcpu.launchCause_explains hw fail failed,
    Vcpu.run_launch_refused refused, Vcpu.virtualize_stops_launch refused⟩

/-- A processor that refuses to launch a guest, with a number that has no meaning. -/
def gapProcessor : SimulatedProcessor := { SimulatedProcessor.reset with launchFailure := some 27 }

/-- A launch that the simulated processor refuses with a number without a meaning, and one that a
machine refuses without a current VMCS, although it holds a number. -/
theorem launch_reports_errorNumber_gap :
    let vcpu := Vcpu.fresh 0 0x1c000 0x10000 .empty {}
    let machine : Machine :=
      { vmlaunch := some .invalid, fields := [(.instructionError, .word 7)] }
    (∃ cause : InstructionError, cause.code = 27 ∧
      (SimulatedProcessor.hardware.execute vcpu gapProcessor Vcpu.virtualize).outcome
        = .error (.launchFailed cause)) ∧
    (Machine.hardware.run Vmcs.launch.run machine).1 = .error (.launchFailed .notAvailable) := by
  obtain ⟨s, mem, fails⟩ := Operation.exists_mem_of_any Operation.eq_of_isVmlaunch
    (fun cpu : SimulatedProcessor => cpu.currentVmcs.isSome && cpu.launchFailure == some 27)
    (show (SimulatedProcessor.hardware.stepsOf (Vcpu.fresh 0 0x1c000 0x10000 .empty {})
      gapProcessor Vcpu.virtualize).any _ = true by decide +kernel)
  obtain ⟨current, failure⟩ : s.currentVmcs.isSome ∧ s.launchFailure = some 27 := by
    simpa using fails
  have refused : SimulatedProcessor.hardware.answer .vmlaunch s
      = (.error .valid, s.withFailedLaunch 27) := by
    rw [show SimulatedProcessor.hardware.answer .vmlaunch s = _ from
      SimulatedProcessor.vmlaunch_of_current current, failure]
  have number : SimulatedProcessor.hardware.errorNumber (s.withFailedLaunch 27) = .ok 27 := by
    have kept : (s.withFailedLaunch 27).currentVmcs.isSome := current
    have stored : (s.withFailedLaunch 27).fields .instructionError = some 27 :=
      update_self s.fields .instructionError (some ((27 : BitVec 32).setWidth 64))
    refine (SimulatedProcessor.vmread_of_current kept .instructionError).trans ?_
    rw [SimulatedProcessor.word, stored]
    rfl
  obtain ⟨-, -, -, -, refuses⟩ := launch_reports_errorNumber
  obtain ⟨cause, explains, -, virtualizes⟩ := refuses SimulatedProcessor.hardware refused
  obtain ⟨_, rfl, launches, -⟩ := refuses Machine.hardware
    (s := { vmlaunch := some .invalid, fields := [(.instructionError, .word 7)] }) rfl
  exact ⟨⟨cause, explains 27 number, virtualizes _ _ mem⟩, launches⟩

end VtxMonitor
