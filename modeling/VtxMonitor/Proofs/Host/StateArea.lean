import VtxMonitor.Proofs.Host.Image
import VtxMonitor.Proofs.Vcpu.Phases
import VtxMonitor.Proofs.Vmcs.HostArea

/-!
# Proofs/Host/StateArea — the host-state area leads to what was prepared

After a VM-exit the processor loads selectors, table bases and a stack pointer from the host-state
area and goes on with what it finds behind them.  The structures and the area are written apart:
preparing makes the structures and stores no field (`prepare_leads`), writing the area stores the
addresses and selectors (`writeHostFields_leads`).  **They fit each other on every processor with a
current VMCS**, wherever the memory of the virtual processor lies and whatever was in it
(`hostState_agrees`).
-/

namespace VtxMonitor

open Vmcs (Field)

variable {σ : Type} {hw : Hardware σ}

/-- The fields of the host-state area that lead nowhere: the selectors but those of code and task,
the bases of FS and GS, and the entry by SYSENTER. -/
def Vmcs.nullHostFields : List Field :=
  [.hostSsSelector, .hostDsSelector, .hostEsSelector, .hostFsSelector, .hostGsSelector,
    .hostFsBase, .hostGsBase, .hostSysenterCs, .hostSysenterEsp, .hostSysenterEip]

/-- The segment behind a selector field, in the GDT of four entries behind the GDTR base. -/
def hostSegment (image : Memory) (host : Field → Word) (selector : Field) : Segment :=
  Segment.ofTable (m := Id) ((host selector).setWidth 16) 31
    (image.descriptorAt (host .hostGdtrBase))

/-- The host-state area `host` of a virtual processor leads to what the processor needs, given the
memory that it finds there. -/
structure HostStateAgrees (holder : VmcsHolder hw) (vcpu : Vcpu) (image : Memory)
    (host : Field → Word) : Prop where
  taskBase : (hostSegment image host .hostTrSelector).base = host .hostTrBase
  taskAddress : host .hostTrBase = vcpu.memory.tssAddress
  taskZero : ∀ i < 13, image.load (host .hostTrBase + BitVec.ofNat 64 (8 * i)) = 0
  /-- The code segment is a present 64-bit one of ring 0. -/
  code :
    let rights := (hostSegment image host .hostCsSelector).accessRights
    rights.present ∧ rights.dpl = 0 ∧ rights.descriptorType ∧ rights.segmentType.getLsbD 3 ∧
      rights.longMode ∧ !rights.defaultBig ∧ !rights.unusable
  gates : ∀ vector,
    let gate := image.gateAt (host .hostIdtrBase) vector
    gate.selector.setWidth 64 = host .hostCsSelector ∧
      gate.handler = holder.interruptEntry vector ∧
      gate.attributes = InterruptGate.presentAttributes ∧ gate.ist = 0
  cr0 : host .hostCr0 = holder.cr .cr0
  cr3 : host .hostCr3 = holder.cr .cr3
  cr4 : host .hostCr4 = holder.cr .cr4
  rip : host .hostRip = holder.exitEntry
  rspAligned : (host .hostRsp).toNat % 16 = 8
  rspInside : vcpu.memory.base.toNat ≤ (host .hostRsp).toNat ∧
    (host .hostRsp).toNat + 24 ≤ vcpu.memory.base.toNat + hostStackSize.toNat
  owner : image.load (host .hostRsp + 8) = vcpu.address
  marker : image.load (host .hostRsp + 16) = stackMarker
  null : ∀ field ∈ Vmcs.nullHostFields, host field = 0

namespace Vcpu

/-- The virtual processor after its host structures are prepared on a processor with entry points of
its own. -/
def preparedFor (vcpu : Vcpu) (entryPoint : BitVec 8 → Word) : Vcpu :=
  { vcpu.prepared with memory.idt := .routing entryPoint }

/-- Prepares the host structures and writes the host-state area that leads to them. -/
def buildHostState : Fallible Vcpu Unit := do
  prepare
  Vmcs.writeHostFields (← get).memory

end Vcpu

namespace VmcsHolder

variable (holder : VmcsHolder hw) {words : Field → Word}

/-! ## Preparing stores no field -/

theorem prepareTables_leads (memory : VcpuMemory) :
    holder.Leads words memory.prepareTables
      { memory with
        msrBitmap := .empty
        tss := .zero
        idt := .routing holder.interruptEntry
        gdt := HostGdt.forTask memory.tssAddress } words := by
  have entries : holder.Leads words (Program.request .interruptEntryPoints) holder.interruptEntry
      words := .request trivial holder.interruptEntryPoints
  rw [VcpuMemory.prepareTables, HostGdt.prepare_eq]
  exact entries.bind ((Leads.report _).bind (.pure _))

theorem install_leads (intercepts : MsrIntercepts) (bitmap : MsrBitmap) :
    holder.Leads words (intercepts.install bitmap) (intercepts.apply bitmap) words :=
  (Leads.reportAll _).bind (.pure _)

/-- **Preparing the host structures makes all of them anew and stores no field.** -/
theorem prepare_leads (vcpu : Vcpu) :
    holder.Leads words (Vcpu.prepare.run vcpu) ((), vcpu.preparedFor holder.interruptEntry)
      words := by
  unfold Vcpu.prepare
  refine .owned_get ?_
  refine (Leads.owned_program (holder.prepareTables_leads vcpu.memory) vcpu).owned_bind ?_
  refine .owned_set ?_
  cases empty : vcpu.intercepts.isEmpty with
  | true =>
      rw [Vcpu.preparedFor, Vcpu.prepared, Vcpu.apply_of_isEmpty empty]
      exact .pure _
  | false =>
      refine (Leads.owned_program (.report _) _).owned_bind ?_
      exact (Leads.owned_program (holder.install_leads _ _) _).owned_bind (.pure _)

/-! ## Building the host state -/

/-- Building the host state succeeds, leaves the structures prepared, and every field of the area
holds its value. -/
theorem execute_buildHostState (vcpu : Vcpu) {s : σ} (holds : holder.Holds s) :
    let prepared := vcpu.preparedFor holder.interruptEntry
    ∃ s', hw.execute vcpu s Vcpu.buildHostState = ⟨.ok (), prepared, s'⟩ ∧
      ∀ field value, (holder.hostValues prepared.memory).lookup field = some value →
        holder.word s' field = value := by
  intro prepared
  have built : holder.Leads (holder.word s) (Vcpu.buildHostState.start vcpu) (.ok (), prepared) _ :=
    ((holder.prepare_leads vcpu).start_owned).start_bind <| .start_get <|
      (holder.writeHostFields_leads prepared.memory).start_procedure prepared
  obtain ⟨outcome, record, shows⟩ := built.execute ⟨holds, rfl⟩
  refine ⟨_, Execution.ext outcome record rfl, fun field value listed => ?_⟩
  obtain ⟨before, after, split, -⟩ := List.lookup_eq_some_iff.1 listed
  have mem : (field, value) ∈ holder.hostValues prepared.memory :=
    split ▸ List.mem_append_right before List.mem_cons_self
  rw [shows.word]
  exact holder.updateAll_hostValues mem

end VmcsHolder

/-! ## Structures and fields agree -/

section Prepared

variable {vcpu : Vcpu} {entryPoint : BitVec 8 → Word}

/-- The segments behind the host's selectors once the structures are prepared. -/
theorem hostSegment_prepared {host : Field → Word} {selector : Field} {value : BitVec 16}
    (gdtr : host .hostGdtrBase = vcpu.memory.gdtAddress)
    (selected : host selector = value.setWidth 64) :
    hostSegment (vcpu.preparedFor entryPoint).memory.hostImage host selector
      = Segment.ofTable (m := Id) value 31
          ((vcpu.preparedFor entryPoint).memory.hostImage.descriptorAt vcpu.memory.gdtAddress) := by
  rw [hostSegment, gdtr, selected, BitVec.setWidth_setWidth_of_le value (by omega),
    BitVec.setWidth_eq]

theorem descriptorAt_prepared {index : BitVec 16} (inside : index.toNat < 4) :
    (vcpu.preparedFor entryPoint).memory.hostImage.descriptorAt vcpu.memory.gdtAddress index
      = (HostGdt.forTask vcpu.memory.tssAddress).entry index :=
  (vcpu.preparedFor entryPoint).memory.descriptorAt_hostImage (by omega)

/-- The task segment of a prepared virtual processor is found behind its selector. -/
theorem base_hostTr_prepared :
    (Segment.ofTable (m := Id) hostTrSelector 31
      ((vcpu.preparedFor entryPoint).memory.hostImage.descriptorAt
        vcpu.memory.gdtAddress)).base = vcpu.memory.tssAddress :=
  Segment.base_ofTable_hostTr (descriptorAt_prepared (by decide))
    (descriptorAt_prepared (by decide))

theorem hostCs_prepared :
    Segment.ofTable (m := Id) hostCsSelector 31
      ((vcpu.preparedFor entryPoint).memory.hostImage.descriptorAt
        vcpu.memory.gdtAddress) = Segment.hostCode :=
  Segment.ofTable_hostCs (descriptorAt_prepared (by decide))

theorem gateAt_prepared (vector : BitVec 8) :
    (vcpu.preparedFor entryPoint).memory.hostImage.gateAt vcpu.memory.idtAddress vector
      = .ofHandler (entryPoint vector) hostCsSelector :=
  (vcpu.preparedFor entryPoint).memory.gateAt_hostImage vector

theorem load_tss_prepared {i : Nat} (inside : i < 13) :
    (vcpu.preparedFor entryPoint).memory.hostImage.load
      (vcpu.memory.tssAddress + BitVec.ofNat 64 (8 * i)) = 0 :=
  ((vcpu.preparedFor entryPoint).memory.load_tss inside).trans (TaskState.word_zero i)

end Prepared

/-- **The host-state area agrees with the structures that it leads to**, on every processor with a
current VMCS, for every virtual processor whose page-aligned memory does not wrap around. -/
theorem hostState_agrees (holder : VmcsHolder hw) (vcpu : Vcpu) {s : σ} (holds : holder.Holds s)
    (aligned : vcpu.memory.base.toNat % 4096 = 0)
    (fits : vcpu.memory.base.toNat + VcpuMemory.size.toNat ≤ 2 ^ 64) :
    let ended := hw.execute vcpu s Vcpu.buildHostState
    ended.outcome = .ok () ∧
      HostStateAgrees holder vcpu ended.record.memory.hostImage (holder.word ended.state) := by
  obtain ⟨s', ended, found⟩ := holder.execute_buildHostState vcpu holds
  let memory := (vcpu.preparedFor holder.interruptEntry).memory
  have task : holder.word s' .hostTrBase = vcpu.memory.tssAddress := found _ _ rfl
  have gdtr : holder.word s' .hostGdtrBase = vcpu.memory.gdtAddress := found _ _ rfl
  have idtr : holder.word s' .hostIdtrBase = vcpu.memory.idtAddress := found _ _ rfl
  have tr : holder.word s' .hostTrSelector = hostTrSelector.setWidth 64 := found _ _ rfl
  have cs : holder.word s' .hostCsSelector = hostCsSelector.setWidth 64 := found _ _ rfl
  have rsp : holder.word s' .hostRsp = memory.hostRsp := found _ _ rfl
  have top : memory.hostRsp.toNat = vcpu.memory.base.toNat + 0x5fe8 :=
    memory.toNat_hostRsp aligned fits
  have stack : hostStackSize.toNat = 0x6000 := rfl
  rw [ended]
  refine ⟨rfl, ?_⟩
  exact
    { taskBase := by rw [hostSegment_prepared gdtr tr, base_hostTr_prepared, task]
      taskAddress := task
      taskZero := fun i inside => by rw [task, load_tss_prepared inside]
      code := by
        rw [hostSegment_prepared gdtr cs, hostCs_prepared]
        decide
      gates := fun vector => by
        rw [idtr, gateAt_prepared]
        exact ⟨cs.symm, InterruptGate.handler_ofHandler _ _, rfl, rfl⟩
      cr0 := found _ _ rfl
      cr3 := found _ _ rfl
      cr4 := found _ _ rfl
      rip := found _ _ rfl
      rspAligned := by
        rw [rsp, top]
        omega
      rspInside := by
        rw [rsp, top, stack]
        omega
      owner := by
        rw [rsp, memory.hostRsp_add_8 aligned]
        exact memory.load_vcpuSlot
      marker := by
        rw [rsp, memory.hostRsp_add_16 aligned]
        exact memory.load_markerSlot
      null := by
        intro field mem
        simp only [Vmcs.nullHostFields, List.mem_cons, List.not_mem_nil, or_false] at mem
        rcases mem with rfl | rfl | rfl | rfl | rfl | rfl | rfl | rfl | rfl | rfl <;>
          exact found _ _ rfl }

/-- Memory in the last pages of the address space, with something else in it before, on the
simulated processor and on a machine. -/
theorem hostState_agrees_lastPages :
    let memory : VcpuMemory :=
      { base := 0xffffffffffff4000
        vcpuPointer := 7
        tss := Vector.replicate taskStateSize 0xff
        idt := fun _ => .ofHandler 0x1000 0x10
        gdt := Vector.replicate 4 code64Descriptor }
    let vcpu : Vcpu := { Vcpu.fresh 0 0x1000 0 .empty ⟨[Msr.fsBase], []⟩ with memory }
    let cpu := SimulatedProcessor.reset.enterVmxWithCurrentVmcs
    let simulated := SimulatedProcessor.hardware.execute vcpu cpu Vcpu.buildHostState
    let machine := Machine.hardware.execute vcpu {} Vcpu.buildHostState
    (vcpu.memory.base.toNat % 4096 = 0 ∧
      vcpu.memory.base.toNat + VcpuMemory.size.toNat ≤ 2 ^ 64) ∧
      (cpu.vmcsHolder.Holds cpu ∧ simulated.outcome = .ok () ∧
        HostStateAgrees cpu.vmcsHolder vcpu simulated.record.memory.hostImage
          (cpu.vmcsHolder.word simulated.state)) ∧
      (Machine.vmcsHolder {}).Holds {} ∧ machine.outcome = .ok () ∧
        HostStateAgrees (Machine.vmcsHolder {}) vcpu machine.record.memory.hostImage
          ((Machine.vmcsHolder {}).word machine.state) := by
  intro memory vcpu cpu simulated machine
  have current : cpu.vmcsHolder.Holds cpu := ⟨rfl, rfl⟩
  have idle : (Machine.vmcsHolder {}).Holds {} := rfl
  have aligned : vcpu.memory.base.toNat % 4096 = 0 := by decide
  have fits : vcpu.memory.base.toNat + VcpuMemory.size.toNat ≤ 2 ^ 64 := by decide
  exact ⟨⟨aligned, fits⟩, ⟨current, hostState_agrees cpu.vmcsHolder vcpu current aligned fits⟩,
    idle, hostState_agrees (Machine.vmcsHolder {}) vcpu idle aligned fits⟩

end VtxMonitor
