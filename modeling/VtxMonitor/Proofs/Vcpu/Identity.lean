import VtxMonitor.Proofs.Vcpu.BringUp

/-!
# Proofs/Vcpu/Identity — what a virtual processor is created with stays for good

`Fallible.Keeps` collects the programs that leave part of their record as it is on every hardware;
they are closed under sequencing and under handlers.  Most steps keep whatever depends neither on
the stage nor on what is in the memory (`Vcpu.Lasting`).  Index, address, handlers, intercepts and
the place of the memory make up the `identity` of a virtual processor, and **every operation keeps
it, whatever it is answered**.
-/

namespace VtxMonitor

variable {ρ α β γ : Type}

/-- A program that leaves part of its record as it is, on every hardware and however it ends. -/
def Fallible.Keeps (part : ρ → γ) (procedure : Fallible ρ α) : Prop :=
  ∀ (σ : Type) (hw : Hardware σ) (record : ρ) (s : σ),
    part (hw.execute record s procedure).record = part record

namespace Fallible.Keeps

variable {part : ρ → γ}

theorem bind {procedure : Fallible ρ α} {next : α → Fallible ρ β} (first : procedure.Keeps part)
    (rest : ∀ value, (next value).Keeps part) : (procedure >>= next).Keeps part := by
  intro σ hw record s
  have kept := first σ hw record s
  rw [Hardware.execute_bind]
  revert kept
  rcases hw.execute record s procedure with ⟨error | value, record', s'⟩
  · exact id
  · exact (rest value σ hw record' s').trans

theorem handled {procedure : Fallible ρ α} {handler : Error → Fallible ρ α}
    (first : procedure.Keeps part) (rest : ∀ error, (handler error).Keeps part) :
    (tryCatch procedure handler).Keeps part := by
  intro σ hw record s
  have kept := first σ hw record s
  rw [Hardware.execute_tryCatch]
  revert kept
  rcases hw.execute record s procedure with ⟨error | value, record', s'⟩
  · exact (rest error σ hw record' s').trans
  · exact id

theorem of_throw (error : Error) : (throw error : Fallible ρ α).Keeps part := fun _ _ _ _ => rfl

theorem of_get : (get : Fallible ρ ρ).Keeps part := fun _ _ _ _ => rfl

theorem of_modify {f : ρ → ρ} (kept : ∀ record, part (f record) = part record) :
    (modify f : Fallible ρ PUnit).Keeps part := fun _ _ record _ => kept record

theorem of_program (program : Program α) : (liftM program : Fallible ρ α).Keeps part := by
  intro σ hw record s
  rw [Hardware.execute_program]

theorem of_procedure (procedure : Procedure α) : (liftM procedure : Fallible ρ α).Keeps part := by
  intro σ hw record s
  rw [Hardware.execute_procedure]

theorem of_owned {program : Owned ρ α} (kept : ∀ (σ : Type) (hw : Hardware σ) (record : ρ) (s : σ),
    part (hw.run (program.run record) s).1.2 = part record) :
    (liftM program : Fallible ρ α).Keeps part := by
  intro σ hw record s
  rw [Hardware.execute_owned]
  exact kept σ hw record s

end Fallible.Keeps

namespace Vcpu

/-- What a virtual processor is created with. -/
structure Identity where
  index : BitVec 32
  address : Word
  /-- Where its memory is. -/
  base : Word
  handlers : ExitHandlers
  intercepts : MsrIntercepts

/-- The identity of a virtual processor. -/
def identity (vcpu : Vcpu) : Identity :=
  ⟨vcpu.index, vcpu.address, vcpu.memory.base, vcpu.handlers, vcpu.intercepts⟩

/-- A part of a virtual processor that depends neither on its stage nor on the contents of its
memory. -/
def Lasting (part : Vcpu → γ) : Prop :=
  ∀ (vcpu : Vcpu) (stage : Stage) (memory : VcpuMemory), memory.base = vcpu.memory.base →
    part { vcpu with stage, memory } = part vcpu

theorem identity_lasting : Lasting identity := by
  intro vcpu stage memory base
  rw [identity, base]
  rfl

open Fallible.Keeps
open Script

variable {part : Vcpu → γ}

theorem enter_keeps (lasting : Lasting part) (stage : Stage) :
    (liftM (enter stage) : Fallible Vcpu Unit).Keeps part :=
  of_owned fun _ _ vcpu _ => lasting vcpu stage vcpu.memory rfl

theorem enableVmx_keeps (featureControl : FeatureControlState) :
    (liftM (enableVmx featureControl) : Fallible Vcpu Unit).Keeps identity := by
  refine of_owned fun σ hw record s => ?_
  cases featureControl <;> rfl

/-- Stamping a region changes nothing but what is in the memory. -/
theorem stampRegion_keeps (lasting : Lasting part) (region : String)
    {stamp : BitVec 32 → VcpuMemory → VcpuMemory} (address : VcpuMemory → Word)
    (base : ∀ revision memory, (stamp revision memory).base = memory.base) :
    Fallible.Keeps part (stampRegion region stamp address) := by
  refine (of_program _).bind fun revision => bind (of_modify fun vcpu => ?_) fun _ => ?_
  · exact lasting vcpu vcpu.stage _ (base revision _)
  exact of_get.bind fun vcpu => of_procedure _

theorem enterVmx_keeps (lasting : Lasting part) : enterVmx.Keeps part := by
  have stamped : Fallible.Keeps part
      (stampRegion "VMXON" VcpuMemory.stampVmxon VcpuMemory.vmxonAddress) :=
    stampRegion_keeps lasting _ _ fun _ _ => rfl
  refine stamped.bind fun physical => ?_
  exact (of_procedure _).bind fun _ => (enter_keeps lasting _).bind fun _ => of_procedure _

theorem loadVmcs_keeps (lasting : Lasting part) : loadVmcs.Keeps part := by
  have stamped : Fallible.Keeps part
      (stampRegion "VMCS" VcpuMemory.stampVmcs VcpuMemory.vmcsAddress) :=
    stampRegion_keeps lasting _ _ fun _ _ => rfl
  refine stamped.bind fun physical => ?_
  exact (of_procedure _).bind fun _ => (of_procedure _).bind fun _ => enter_keeps lasting _

theorem prepare_keeps (lasting : Lasting part) :
    (liftM prepare : Fallible Vcpu Unit).Keeps part := by
  refine of_owned fun σ hw record s => ?_
  unfold prepare
  rw [Hardware.run_owned_get, Hardware.run_owned_program, Hardware.run_owned_set]
  cases record.intercepts.isEmpty with
  | true => exact lasting record record.stage _ rfl
  | false =>
      simp only [Bool.not_false, if_true]
      rw [Hardware.run_owned_report, Hardware.run_owned_program]
      exact lasting record record.stage _ rfl

theorem teardown_keeps : (liftM teardown : Fallible Vcpu Unit).Keeps identity := by
  refine of_owned fun σ hw record s => ?_
  by_cases launched : record.stage = .launched
  · unfold teardown
    rw [Hardware.run_owned_get, if_pos launched]
    rfl
  · rw [teardown_eq _ launched, Hardware.run_bind]
    rfl

theorem launchGuest_keeps (lasting : Lasting part) : Fallible.Keeps part launchGuest := by
  refine (of_program _).bind fun _ => (of_procedure _).bind fun _ => ?_
  exact (enter_keeps lasting _).bind fun _ => of_get.bind fun vcpu => of_program _

theorem bringUpAdjusted_keeps (lasting : Lasting part) :
    Fallible.Keeps part bringUpAdjusted := by
  refine (of_program _).bind fun _ => (enterVmx_keeps lasting).bind fun _ => ?_
  refine (of_program _).bind fun _ => (loadVmcs_keeps lasting).bind fun _ => ?_
  refine (of_program _).bind fun _ => (prepare_keeps lasting).bind fun _ => ?_
  refine (of_program _).bind fun _ => of_get.bind fun vcpu => ?_
  exact (of_procedure _).bind fun _ => launchGuest_keeps lasting

theorem attempt_keeps (index : BitVec 32) : Fallible.Keeps identity (attempt index) := by
  refine (of_program _).bind fun _ => (of_procedure _).bind fun featureControl => handled ?_ ?_
  · exact (enableVmx_keeps _).bind fun _ => bringUpAdjusted_keeps identity_lasting
  · intro error
    refine of_get.bind fun vcpu => (of_program _).bind fun _ => ?_
    exact teardown_keeps.bind fun _ => of_throw error

/-- **A virtualization keeps the identity**, on every hardware and however it ends. -/
theorem virtualize_keeps : virtualize.Keeps identity := by
  refine of_get.bind fun vcpu => ?_
  split
  · exact (of_throw _).bind fun _ => attempt_keeps vcpu.index
  · exact attempt_keeps vcpu.index

end Vcpu

end VtxMonitor
