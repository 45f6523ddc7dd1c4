import VtxMonitor.Proofs.Processor.Steps
import VtxMonitor.Proofs.Simulator.Filling
import VtxMonitor.Proofs.Vcpu.BringUp

/-!
# Proofs/Vcpu/Requests — what the parts of a virtualization can request

Most parts of a virtualization are `Operation.Inert`: **whatever they are answered**, they write no
register and no VMCS field, give the processor no region of memory, and neither drop its EPT
mappings nor launch a guest.  Each of the other parts makes inert requests and a few more
(`enableVmx_only`, `enterVmx_only`, `loadVmcs_only`, `launch_only`, `clearVmcs_only`), from which it
follows what it spares.
-/

namespace VtxMonitor

namespace Operation

/-- Requests that neither write a control register nor enter VMX operation nor load a VMCS. -/
def Quiet : Operation → Prop
  | .writeCr .. | .vmxon _ | .vmptrld _ => False
  | _ => True

/-- Requests that write no VMCS field. -/
def SparesVmcs : Operation → Prop
  | .vmwrite .. => False
  | _ => True

/-- The MSR that a request writes. -/
def writtenMsr : Operation → Option Msr.Number
  | .writeMsr msr _ => some msr
  | _ => none

/-- The physical address of the region of memory that a request gives to the processor. -/
def region : Operation → Option Word
  | .vmxon address | .vmclear address | .vmptrld address => some address
  | _ => none

/-- Requests that write no register and no VMCS field, give the processor no region, invalidate no
mappings and launch no guest. -/
def Inert : Operation → Prop
  | .writeMsr .. | .writeCr .. | .vmwrite .. | .vmxon _ | .vmclear _ | .vmptrld _ | .inveptAll
  | .vmlaunch => False
  | _ => True

variable {op : Operation}

theorem Filling.quiet (filling : op.Filling) : op.Quiet := by
  cases op <;> trivial

theorem Inert.quiet (inert : op.Inert) : op.Quiet := by
  cases op <;> trivial

theorem Inert.sparesVmcs (inert : op.Inert) : op.SparesVmcs := by
  cases op <;> trivial

theorem Inert.writtenMsr (inert : op.Inert) : op.writtenMsr = none := by
  cases op <;> first | rfl | exact inert.elim

theorem Inert.region (inert : op.Inert) : op.region = none := by
  cases op <;> first | rfl | exact inert.elim

theorem Filling.writtenMsr (filling : op.Filling) : op.writtenMsr = none := by
  cases op <;> first | rfl | exact filling.elim

theorem Filling.region (filling : op.Filling) : op.region = none := by
  cases op <;> first | rfl | exact filling.elim

theorem Writes.not_sparesVmcs {field : Vmcs.Field} (writes : op.Writes field) :
    ¬op.SparesVmcs := by
  cases op <;> first | exact id | exact writes.elim

end Operation

theorem Program.Only.quiet {α : Type} {program : Program α} (inert : program.Only Operation.Inert) :
    program.Only Operation.Quiet :=
  inert.mono fun _ => Operation.Inert.quiet

theorem Program.Only.sparesVmcs {α : Type} {program : Program α}
    (inert : program.Only Operation.Inert) : program.Only Operation.SparesVmcs :=
  inert.mono fun _ => Operation.Inert.sparesVmcs

namespace Vcpu

open Script

variable {vcpu : Vcpu}

/-! ## Inert parts -/

theorem report_inert (diagnostic : Diagnostic) :
    (Program.report diagnostic).Only Operation.Inert := ⟨trivial, fun _ => trivial⟩

theorem reportAll_inert (diagnostics : List Diagnostic) :
    (Program.reportAll diagnostics).Only Operation.Inert := by
  induction diagnostics with
  | nil => trivial
  | cons diagnostic rest ih => exact ⟨trivial, fun _ => ih⟩

theorem check_inert : Support.check.run.Only Operation.Inert := by
  unfold Support.check
  refine .procedure_bind (.procedure_request (by trivial)) fun leaf => ?_
  split
  · exact .procedure_bind (.procedure_request (by trivial)) fun _ => trivial
  · refine .procedure_bind (.procedure_request (by trivial)) fun control => ?_
    split
    · trivial
    · split
      · exact .procedure_bind (.procedure_request (by trivial)) fun _ => trivial
      · trivial

theorem revisionId_inert : Support.revisionId.Only Operation.Inert :=
  ⟨trivial, fun _ => trivial⟩

theorem physicalAddress_inert (address : Word) :
    (Procedure.physicalAddress address).run.Only Operation.Inert := by
  refine ⟨trivial, fun reply => ?_⟩
  cases reply <;> trivial

theorem regionAddress_inert (region : String) (address : Word) :
    (regionAddress region address).run.Only Operation.Inert := by
  refine (physicalAddress_inert address).procedure_bind fun physical => ?_
  split
  · trivial
  · exact ⟨trivial, fun _ => trivial⟩

theorem prepare_inert : (prepare.run vcpu).Only Operation.Inert := by
  have tables : ∀ memory : VcpuMemory, memory.prepareTables.Only Operation.Inert :=
    fun _ => ⟨trivial, fun _ => ⟨trivial, fun _ => trivial⟩⟩
  have install : ∀ (intercepts : MsrIntercepts) (bitmap : MsrBitmap),
      (intercepts.install bitmap).Only Operation.Inert :=
    fun _ _ => (reportAll_inert _).bind fun _ => .pure _
  unfold prepare
  refine .owned_bind trivial fun _ _ => .owned_bind ((tables _).owned_program _) fun memory _ => ?_
  refine .owned_bind trivial fun _ vcpu => ?_
  split
  · refine .owned_bind ⟨trivial, fun _ => trivial⟩ fun _ _ => ?_
    refine .owned_bind ((install _ _).owned_program _) fun _ _ => ?_
    exact .owned_bind trivial fun _ _ => trivial
  · trivial

theorem leaveVmx_inert : leaveVmx.Only Operation.Inert := by
  refine ⟨trivial, fun reply => ?_⟩
  match reply with
  | .ok () => trivial
  | .error _ => exact report_inert _

/-! ## Parts with further requests -/

theorem instruction_only {P : Operation → Prop} (label : String)
    {program : Program (Except VmFail Unit)} (only : program.Only P) :
    (instruction label program).run.Only P :=
  only.bind fun _ => .pure _

theorem undo_of_reached (loaded : vcpu.stage.reached .vmcsLoaded) :
    vcpu.undo = clearVmcs vcpu.memory >>= fun _ => vcpu.undoVmx := by
  rw [undo, if_pos loaded]

theorem undo_of_not_reached (pending : ¬vcpu.stage.reached .vmcsLoaded) :
    vcpu.undo = vcpu.undoVmx := by
  rw [undo, if_neg pending]

section

variable {P : Operation → Prop} (inert : ∀ op : Operation, op.Inert → P op)
include inert

theorem adjustControlRegisters_only (writes : ∀ register value, P (.writeCr register value)) :
    (adjustControlRegisters.run vcpu).Only P := by
  unfold adjustControlRegisters
  refine .owned_bind (.owned_request (inert _ trivial)) fun _ _ => ?_
  refine .owned_bind (.owned_request (inert _ trivial)) fun _ _ => ?_
  refine .owned_bind trivial fun _ _ => ?_
  iterate 4 refine .owned_bind (.owned_request (inert _ trivial)) fun _ _ => ?_
  refine .owned_bind (.owned_request (writes _ _)) fun _ _ => ?_
  refine .owned_bind (.owned_request (writes _ _)) fun _ _ => ?_
  exact .owned_bind trivial fun _ _ => .owned_request (inert _ trivial)

theorem enableVmx_only (featureControl : FeatureControlState)
    (writes : ∀ register value, P (.writeCr register value))
    (locks : ∀ value, P (.writeMsr Msr.featureControl value)) :
    ((enableVmx featureControl).run vcpu).Only P := by
  cases featureControl with
  | enabled =>
      rw [enableVmx_enabled]
      refine .owned_bind (.owned_request (inert _ trivial)) fun _ _ => ?_
      exact adjustControlRegisters_only inert writes
  | unlocked =>
      have lock : lockFeatureControl.Only P :=
        ⟨inert _ trivial, fun _ => ⟨inert _ trivial, fun _ => ⟨locks _, fun _ => trivial⟩⟩⟩
      rw [enableVmx_unlocked]
      refine .owned_bind (.owned_request (inert _ trivial)) fun _ _ => ?_
      refine .owned_bind (lock.owned_program _) fun _ _ => ?_
      exact adjustControlRegisters_only inert writes

theorem stampRegion_only (region : String) (stamp : BitVec 32 → VcpuMemory → VcpuMemory)
    (address : VcpuMemory → Word) :
    (Fallible.start (stampRegion region stamp address) vcpu).Only P := by
  unfold stampRegion
  refine .start_bind ((revisionId_inert.mono inert).start_program _) fun _ _ => ?_
  refine .start_bind trivial fun _ _ => .start_bind trivial fun _ _ => ?_
  exact ((regionAddress_inert _ _).mono inert).start_procedure _

theorem enterVmx_only (vmxon : ∀ address, P (.vmxon address)) (invept : P .inveptAll) :
    (enterVmx.start vcpu).Only P := by
  have enters : ∀ address, (instruction "VMXON" (Program.request (.vmxon address))).run.Only P :=
    fun address => instruction_only _ ⟨vmxon address, fun _ => trivial⟩
  have drops : (instruction "INVEPT" (Program.request .inveptAll)).run.Only P :=
    instruction_only _ ⟨invept, fun _ => trivial⟩
  refine .start_bind (stampRegion_only inert _ _ _) fun address _ => ?_
  refine .start_bind ((enters address).start_procedure _) fun _ _ => ?_
  exact .start_bind trivial fun _ _ => drops.start_procedure _

theorem loadVmcs_only (vmclear : ∀ address, P (.vmclear address))
    (vmptrld : ∀ address, P (.vmptrld address)) : (loadVmcs.start vcpu).Only P := by
  have clears : ∀ address, (instruction "VMCLEAR" (Program.request (.vmclear address))).run.Only
      P := fun address => instruction_only _ ⟨vmclear address, fun _ => trivial⟩
  have loads : ∀ address, (instruction "VMPTRLD" (Program.request (.vmptrld address))).run.Only
      P := fun address => instruction_only _ ⟨vmptrld address, fun _ => trivial⟩
  refine .start_bind (stampRegion_only inert _ _ _) fun address _ => ?_
  refine .start_bind ((clears address).start_procedure _) fun _ _ => ?_
  exact .start_bind ((loads address).start_procedure _) fun _ _ => trivial

theorem launchError_only (fail : VmFail) : (Vmcs.launchError fail).Only P := by
  cases fail with
  | invalid => trivial
  | valid =>
      refine ⟨inert _ trivial, fun reply => ?_⟩
      cases reply <;> trivial

theorem answerLaunch_only (reply : Except VmFail Unit) : (Vmcs.answerLaunch reply).run.Only P := by
  match reply with
  | .ok () => trivial
  | .error fail =>
      refine .procedure_bind (.procedure_program (launchError_only inert fail)) fun _ => ?_
      exact .procedure_bind (.procedure_request (inert _ trivial)) fun _ => trivial

theorem launch_only (launch : P .vmlaunch) : Vmcs.launch.run.Only P :=
  .procedure_bind (.procedure_request launch) (answerLaunch_only inert)

theorem clearVmcs_only (memory : VcpuMemory) (vmclear : ∀ address, P (.vmclear address)) :
    (clearVmcs memory).Only P := by
  refine ((physicalAddress_inert memory.vmcsAddress).mono inert).bind fun translation => ?_
  cases translation with
  | error error => exact (report_inert _).mono inert
  | ok vmcs =>
      refine ⟨vmclear vmcs, fun reply => ?_⟩
      match reply with
      | .ok () => trivial
      | .error _ => exact (report_inert _).mono inert

theorem restoreControlRegisters_only (cr0 cr4 : Word)
    (writes : ∀ register value, P (.writeCr register value)) :
    (restoreControlRegisters cr0 cr4).Only P :=
  ⟨inert _ trivial, fun _ => ⟨writes _ _, fun _ => ⟨writes _ _, fun _ => ⟨inert _ trivial,
    fun _ => trivial⟩⟩⟩⟩

theorem undoVmx_only (vcpu : Vcpu) (writes : ∀ register value, P (.writeCr register value)) :
    vcpu.undoVmx.Only P := by
  have reported : (Program.report (.toreDown vcpu.index vcpu.stage)).Only P :=
    (report_inert _).mono inert
  have restored := restoreControlRegisters_only inert vcpu.savedCr0 vcpu.savedCr4 writes
  unfold undoVmx
  dsimp only
  split
  · refine (leaveVmx_inert.mono inert).bind fun _ => ?_
    split
    · exact restored.bind fun _ => reported
    · exact reported
  · split
    · exact restored.bind fun _ => reported
    · exact reported

/-- The VMCS is cleared only behind a bring-up that loaded it. -/
theorem undo_only (writes : ∀ register value, P (.writeCr register value))
    (vmclear : vcpu.stage.reached .vmcsLoaded → ∀ address, P (.vmclear address)) :
    vcpu.undo.Only P := by
  by_cases loaded : vcpu.stage.reached .vmcsLoaded
  · rw [undo_of_reached loaded]
    exact (clearVmcs_only inert vcpu.memory (vmclear loaded)).bind fun _ =>
      undoVmx_only inert vcpu writes
  · rw [undo_of_not_reached loaded]
    exact undoVmx_only inert vcpu writes

theorem teardown_only (writes : ∀ register value, P (.writeCr register value))
    (vmclear : vcpu.stage = .vmcsLoaded → ∀ address, P (.vmclear address)) :
    (teardown.run vcpu).Only P := by
  by_cases launched : vcpu.stage = .launched
  · have busy : teardown.run vcpu
        = (if vcpu.stage = .launched then liftM (Program.report (.runsGuest vcpu.index)) else _ :
          Owned Vcpu Unit).run vcpu := rfl
    rw [busy, if_pos launched]
    exact ((report_inert _).mono inert).owned_program _
  · have loaded : vcpu.stage.reached .vmcsLoaded → vcpu.stage = .vmcsLoaded := by
      revert launched
      cases vcpu.stage <;> decide
    rw [teardown_eq vcpu launched]
    exact (undo_only inert writes (vmclear ∘ loaded)).bind fun _ => trivial

theorem report_only (diagnostic : Diagnostic) :
    ((liftM (Program.report diagnostic) : Fallible Vcpu Unit).start vcpu).Only P :=
  ((report_inert diagnostic).mono inert).start_program vcpu

theorem launchGuest_only (launch : P .vmlaunch) :
    (Fallible.start launchGuest vcpu).Only P := by
  refine .start_bind (report_only inert _) fun _ _ => ?_
  refine .start_bind ((launch_only inert launch).start_procedure _) fun _ _ => ?_
  exact .start_bind trivial fun _ _ => .start_bind trivial fun _ _ => report_only inert _

theorem fillAndLaunch_only (fills : ∀ op : Operation, op.Filling → P op) (launch : P .vmlaunch) :
    (Fallible.start fillAndLaunch vcpu).Only P := by
  refine .start_bind (prepare_inert.mono inert).start_owned fun _ _ => ?_
  refine .start_bind (report_only inert _) fun _ _ => .start_bind trivial fun vcpu _ => ?_
  refine .start_bind (((Vmcs.populate_filling vcpu.memory).mono fills).start_procedure _)
    fun _ _ => ?_
  exact launchGuest_only inert launch

theorem bringUpAdjusted_only (vmxon : ∀ address, P (.vmxon address)) (invept : P .inveptAll)
    (vmclear : ∀ address, P (.vmclear address)) (vmptrld : ∀ address, P (.vmptrld address))
    (fills : ∀ op : Operation, op.Filling → P op) (launch : P .vmlaunch) :
    (Fallible.start bringUpAdjusted vcpu).Only P := by
  refine .start_bind (report_only inert _) fun _ _ => ?_
  refine .start_bind (enterVmx_only inert vmxon invept) fun _ _ => ?_
  refine .start_bind (report_only inert _) fun _ _ => ?_
  refine .start_bind (loadVmcs_only inert vmclear vmptrld) fun _ _ => ?_
  exact .start_bind (report_only inert _) fun _ _ => fillAndLaunch_only inert fills launch

theorem giveUp_only (index : BitVec 32) (error : Error)
    (writes : ∀ register value, P (.writeCr register value))
    (vmclear : ∀ address, P (.vmclear address)) :
    (Fallible.start (giveUp index error) vcpu).Only P := by
  refine .start_bind trivial fun _ _ => .start_bind (report_only inert _) fun _ _ => ?_
  refine .start_bind (.start_owned ?_) fun _ _ => trivial
  exact teardown_only inert writes fun _ => vmclear

end

/-! ## Parts that write no VMCS field -/

theorem enableVmx_sparesVmcs (featureControl : FeatureControlState) :
    ((enableVmx featureControl).run vcpu).Only Operation.SparesVmcs :=
  enableVmx_only (fun _ => Operation.Inert.sparesVmcs) featureControl (fun _ _ => trivial)
    fun _ => trivial

theorem enterVmx_sparesVmcs : (enterVmx.start vcpu).Only Operation.SparesVmcs :=
  enterVmx_only (fun _ => Operation.Inert.sparesVmcs) (fun _ => trivial) trivial

theorem loadVmcs_sparesVmcs : (loadVmcs.start vcpu).Only Operation.SparesVmcs :=
  loadVmcs_only (fun _ => Operation.Inert.sparesVmcs) (fun _ => trivial) fun _ => trivial

end Vcpu

end VtxMonitor
