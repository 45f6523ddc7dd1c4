import VtxMonitor.Proofs.Control.Settings
import VtxMonitor.Simulator.Processor

/-!
# Proofs/Simulator/VmcsAccess — reading and writing fields of the current VMCS

**Accesses to VMCS fields fail exactly when no VMCS is current**, whichever field it is (`run_read`,
`run_write`), and the control words add to that nothing but the check of `writeExact` against the
capability MSRs (`run_writeExact`).
-/

namespace VtxMonitor

/-! ## Values replaced in order -/

section

variable {κ ν : Type} [DecidableEq κ]

/-- Replaces several values of a function, in order. -/
def updateAll (f : κ → ν) (entries : List (κ × ν)) : κ → ν :=
  entries.foldl (fun f entry => update f entry.1 entry.2) f

theorem updateAll_append (f : κ → ν) (entries entries' : List (κ × ν)) :
    updateAll f (entries ++ entries') = updateAll (updateAll f entries) entries' :=
  List.foldl_append

theorem updateAll_of_notMem (f : κ → ν) {entries : List (κ × ν)} {key : κ}
    (h : key ∉ entries.map Prod.fst) : updateAll f entries key = f key := by
  induction entries generalizing f with
  | nil => rfl
  | cons entry rest ih =>
      obtain ⟨other, later⟩ := List.ne_and_not_mem_of_not_mem_cons h
      exact (ih (update f entry.1 entry.2) later).trans (update_of_ne _ _ other)

/-- The last replacement counts. -/
theorem updateAll_of_last (f : κ → ν) {before after : List (κ × ν)} {key : κ} (value : ν)
    (h : key ∉ after.map Prod.fst) :
    updateAll f (before ++ (key, value) :: after) key = value := by
  rw [updateAll_append]
  exact (updateAll_of_notMem _ h).trans (update_self _ _ _)

/-- **Where no value is replaced twice, every replacement counts.** -/
theorem updateAll_of_mem (f : κ → ν) {entries : List (κ × ν)}
    (once : (entries.map Prod.fst).Nodup) {key : κ} {value : ν} (mem : (key, value) ∈ entries) :
    updateAll f entries key = value := by
  obtain ⟨before, after, rfl⟩ := List.append_of_mem mem
  rw [List.map_append, List.nodup_append, List.map_cons, List.nodup_cons] at once
  exact updateAll_of_last f value once.2.1.1

end

namespace SimulatedProcessor

/-! ## The content of a field -/

/-- What reading a field of the current VMCS returns: a field that was never stored is zero. -/
def word (cpu : SimulatedProcessor) (field : Vmcs.Field) : Word := (cpu.fields field).getD 0

theorem word_congr {cpu cpu' : SimulatedProcessor} {field : Vmcs.Field}
    (h : cpu'.fields field = cpu.fields field) : cpu'.word field = cpu.word field := by
  rw [word, word, h]

@[simp] theorem word_setField_self (cpu : SimulatedProcessor) (field : Vmcs.Field) (value : Word) :
    (cpu.setField field value).word field = value := by simp [word, setField]

theorem fields_setField_of_ne (cpu : SimulatedProcessor) {field other : Vmcs.Field} (value : Word)
    (h : other ≠ field) : (cpu.setField field value).fields other = cpu.fields other :=
  update_of_ne _ _ h

theorem word_setField_of_ne (cpu : SimulatedProcessor) {field other : Vmcs.Field} (value : Word)
    (h : other ≠ field) : (cpu.setField field value).word other = cpu.word other :=
  word_congr (fields_setField_of_ne cpu value h)

theorem word_setField (cpu : SimulatedProcessor) (field : Vmcs.Field) (value : Word) :
    (cpu.setField field value).word = update cpu.word field value := by
  funext other
  by_cases same : other = field
  · subst same
    rw [word_setField_self, update_self]
  · rw [word_setField_of_ne cpu value same, update_of_ne _ _ same]

/-! ## Accesses -/

section Current

variable {cpu : SimulatedProcessor} (current : cpu.currentVmcs.isSome)
include current

theorem vmread_of_current (field : Vmcs.Field) : cpu.vmread field = .ok (cpu.word field) := by
  rw [vmread, Option.isNone_eq_false_iff.2 current]
  rfl

theorem answer_write (field : Vmcs.Field) (value : Word) :
    answer (.vmwrite field (.word value)) cpu = (.ok (), cpu.setField field value) := by
  change cpu.vmwrite field value = _
  rw [vmwrite, Option.isNone_eq_false_iff.2 current]
  rfl

theorem run_read (field : Vmcs.Field) :
    hardware.run (Vmcs.read field).run cpu = (.ok (cpu.word field), cpu) := by
  change ((cpu.vmread field).mapError _, cpu) = _
  rw [vmread_of_current current]
  rfl

theorem run_write (field : Vmcs.Field) (value : Word) :
    hardware.run (Vmcs.write field value).run cpu = (.ok (), cpu.setField field value) := by
  change ((answer (.vmwrite field (.word value)) cpu).1.mapError _,
    (answer (.vmwrite field (.word value)) cpu).2) = _
  rw [answer_write current]
  rfl

end Current

/-- Without a current VMCS no field can be read. -/
theorem run_read_of_none {cpu : SimulatedProcessor} (none : cpu.currentVmcs = none)
    (field : Vmcs.Field) :
    hardware.run (Vmcs.read field).run cpu = (.error (.vmcsAccess field .invalid), cpu) := by
  change ((cpu.vmread field).mapError _, cpu) = _
  rw [vmread, none]
  rfl

/-! ## Control words -/

/-- The settings that the capability MSRs allow for a control word. -/
def allowedSettings (cpu : SimulatedProcessor) (control : VmxControl) : AllowedSettings :=
  hardware.allowedSettings cpu control

/-- They are found where the monitor looks for them. -/
theorem ofCapability_msrs (cpu : SimulatedProcessor) (control : VmxControl) :
    AllowedSettings.ofCapability
      (cpu.msrs (control.capabilityMsr (VmxBasic.mk (cpu.msrs Msr.vmxBasic)).trueControls))
      = cpu.allowedSettings control :=
  congrArg AllowedSettings.ofCapability (hardware.msr_capabilityMsr cpu control)

theorem run_readSettings (cpu : SimulatedProcessor) (control : VmxControl) :
    hardware.run (AllowedSettings.read control) cpu = (cpu.allowedSettings control, cpu) :=
  Prod.ext (cpu.ofCapability_msrs control) rfl

section Current

variable {cpu : SimulatedProcessor} (current : cpu.currentVmcs.isSome)
include current

theorem run_readControl (control : VmxControl) :
    hardware.run control.read.run cpu = (.ok ((cpu.word control.field).setWidth 32), cpu) := by
  rw [VmxControl.read, Hardware.run_procedure_ok hardware (run_read current control.field)]
  rfl

/-- A control word that is permitted is written as it is. -/
theorem run_writeExact {control : VmxControl} {value : BitVec 32}
    (permitted : (cpu.allowedSettings control).permits value) :
    hardware.run (control.writeExact value).run cpu
      = (.ok (), cpu.setField control.field (value.setWidth 64)) := by
  rw [VmxControl.writeExact, Hardware.run_procedure_program, run_readSettings, if_pos permitted]
  exact run_write current control.field _

end Current

end SimulatedProcessor

end VtxMonitor
