import VtxMonitor.Proofs.Processor.VmcsHolder
import VtxMonitor.Vmcs.Population

/-!
# Proofs/Vmcs/HostArea — what is stored in the host-state area

Both areas of the VMCS that the processor loads its state from begin with the control registers.
Writing the host-state area stores them, and behind them what depends on the memory of the virtual
processor (`writeHostFields_leads`), on every processor with a current VMCS; **nothing outside of
the area is written** (`writeHostFields_fills`).
-/

namespace VtxMonitor

open Vmcs (Field)
open Operation (Fills)

variable {σ : Type} {hw : Hardware σ}

namespace Vmcs

/-! ## Which fields are written -/

theorem copyControlRegisters_fills {cr0Field cr3Field cr4Field : Field} {fields : List Field}
    (inside : [cr0Field, cr3Field, cr4Field] ⊆ fields) :
    (copyControlRegisters cr0Field cr3Field cr4Field).run.Only (Fills fields) := by
  refine ask_fills trivial fun cr0 => ask_fills trivial fun cr3 => ask_fills trivial fun cr4 => ?_
  refine writeAll_fills fun entry mem => inside ?_
  exact List.mem_map_of_mem (f := Prod.fst) mem

/-- The fields of the host-state area behind the control registers. -/
def hostContextFields : List Field :=
  [.hostRsp, .hostRip, .hostCsSelector, .hostTrSelector, .hostSsSelector, .hostDsSelector,
    .hostEsSelector, .hostFsSelector, .hostGsSelector, .hostFsBase, .hostGsBase, .hostTrBase,
    .hostGdtrBase, .hostIdtrBase, .hostSysenterCs, .hostSysenterEsp, .hostSysenterEip]

/-- The fields of the host-state area. -/
def hostAreaFields : List Field := [.hostCr0, .hostCr3, .hostCr4] ++ hostContextFields

theorem hostAreaFields_nodup : hostAreaFields.Nodup := by decide +kernel

theorem area_of_mem_hostAreaFields {field : Field} (mem : field ∈ hostAreaFields) :
    field.area = .host := by
  have host : (hostAreaFields.all fun field => field.area = .host) = true := by decide +kernel
  exact of_decide_eq_true (List.all_eq_true.1 host field mem)

theorem writeHostContext_fills (memory : VcpuMemory) :
    (writeHostContext memory).run.Only (Fills hostContextFields) := by
  have behind : (hostFields memory).map Prod.fst ⊆ hostContextFields := fun _ mem =>
    List.mem_cons_of_mem _ (List.mem_cons_of_mem _ mem)
  have rsp : Field.hostRsp ∈ hostContextFields := List.mem_cons_self
  have rip : Field.hostRip ∈ hostContextFields := List.mem_cons_of_mem _ List.mem_cons_self
  refine ask_fills trivial fun entryPoint => ask_fills trivial fun _ => ?_
  refine (write_fills rsp _).procedure_bind fun _ => ?_
  refine (writeExitEntryPoint_fills rip).procedure_bind fun _ => ?_
  exact writeAll_fills fun entry mem => behind (List.mem_map_of_mem mem)

/-- **Nothing outside of the host-state area is written**, whatever the processor answers. -/
theorem writeHostFields_fills (memory : VcpuMemory) :
    (writeHostFields memory).run.Only (Fills hostAreaFields) := by
  have registers : (copyControlRegisters .hostCr0 .hostCr3 .hostCr4).run.Only
      (Fills hostAreaFields) :=
    copyControlRegisters_fills (List.subset_append_left _ hostContextFields)
  refine registers.procedure_bind fun _ => (writeHostContext_fills memory).mono fun op fills => ?_
  exact fills.mono (List.subset_append_right _ _)

end Vmcs

/-! ## What is stored -/

namespace VmcsHolder

variable (holder : VmcsHolder hw) {words : Field → Word}

theorem copyControlRegisters_leads (cr0Field cr3Field cr4Field : Field) :
    holder.Leads words (Vmcs.copyControlRegisters cr0Field cr3Field cr4Field).run (.ok ())
      (updateAll words [(cr0Field, holder.cr .cr0), (cr3Field, holder.cr .cr3),
        (cr4Field, holder.cr .cr4)]) := by
  have cr (register : ControlRegister) :
      holder.Leads words (liftM (Program.request (.readCr register)) : Procedure Word).run
        (.ok (holder.cr register)) words :=
    .procedure_program (.request trivial fun s => holder.readCr s register)
  exact (cr .cr0).procedure_bind <| (cr .cr3).procedure_bind <| (cr .cr4).procedure_bind <|
    .writeAll _

/-- What is stored in the host-state area for a virtual processor's memory, in order. -/
def hostValues (memory : VcpuMemory) : List (Field × Word) :=
  [(.hostCr0, holder.cr .cr0), (.hostCr3, holder.cr .cr3), (.hostCr4, holder.cr .cr4)] ++
    (.hostRsp, memory.hostRsp) :: (.hostRip, holder.exitEntry) :: Vmcs.hostFields memory

theorem map_fst_hostValues (memory : VcpuMemory) :
    (holder.hostValues memory).map Prod.fst = Vmcs.hostAreaFields := rfl

/-- **Writing the host-state area stores its values.** -/
theorem writeHostFields_leads (memory : VcpuMemory) :
    holder.Leads words (Vmcs.writeHostFields memory).run (.ok ())
      (updateAll words (holder.hostValues memory)) := by
  have entry : ∀ {words}, holder.Leads words
      (liftM (Program.request .exitEntryPoint) : Procedure Word).run (.ok holder.exitEntry) words :=
    .procedure_program (.request trivial holder.exitEntryPoint)
  rw [hostValues, updateAll_append]
  refine (holder.copyControlRegisters_leads _ _ _).procedure_bind <| entry.procedure_bind ?_
  refine (Leads.report _).procedure_program.procedure_bind ?_
  refine (Leads.write .hostRsp _).procedure_bind ?_
  exact (Leads.writeExitEntryPoint .hostRip).procedure_bind (.writeAll _)

/-- No field of the host-state area is stored in twice. -/
theorem updateAll_hostValues {memory : VcpuMemory} {field : Field} {value : Word}
    (mem : (field, value) ∈ holder.hostValues memory) :
    updateAll words (holder.hostValues memory) field = value :=
  updateAll_of_mem words (holder.map_fst_hostValues memory ▸ Vmcs.hostAreaFields_nodup) mem

/-- Fields of the other areas are spared. -/
theorem updateAll_hostValues_of_area {memory : VcpuMemory} {field : Field}
    (other : field.area ≠ .host) : updateAll words (holder.hostValues memory) field = words field :=
  updateAll_of_notMem words fun mem => other (Vmcs.area_of_mem_hostAreaFields mem)

end VmcsHolder

end VtxMonitor
