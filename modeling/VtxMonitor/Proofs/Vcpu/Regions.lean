import VtxMonitor.Proofs.Processor.Moments
import VtxMonitor.Proofs.Vcpu.Lifecycle
import VtxMonitor.Proofs.Vcpu.Requests

/-!
# Proofs/Vcpu/Regions — VMXON, VMCLEAR and VMPTRLD only ever see pages of the virtual processor

Entering VMX operation and loading the VMCS stamp a region and check that it is a page before they
hand it to the processor.  A teardown clears the VMCS without a check.  What it relies on is an
invariant of all calls, in any order and whatever they return: the memory stays where it is,
addresses keep their meaning, and in stage `vmcsLoaded` the VMCS region is a page (`Placed`).  So
**every region that calls hand to the processor is a page of the virtual processor's own, and it is
stamped whenever VMXON or VMPTRLD sees it** (`regions_are_stamped_pages`).
-/

namespace VtxMonitor

open SimulatedProcessor (hardware)

namespace SimulatedProcessor

variable {cpu : SimulatedProcessor}

/-- A virtual address stands for a physical one, which is that of a page. -/
def IsPage (cpu : SimulatedProcessor) (address physical : Word) : Prop :=
  cpu.physicalAddress address = some physical ∧ physical.toNat % 4096 = 0

theorem isPage_iff {region : String} {address physical : Word} :
    cpu.IsPage address physical ↔ cpu.pageAddress region address = .ok physical := by
  rw [pageAddress_eq_ok, aligned_iff, IsPage]

/-- The first word of a stamped region: IA32_VMX_BASIC bits 30:0, with bit 31 clear. -/
def regionStamp (cpu : SimulatedProcessor) : BitVec 32 :=
  0#1 ++ (cpu.msrs Msr.vmxBasic).extractLsb' 0 31

theorem stampedRevision_revisionId (cpu : SimulatedProcessor) :
    stampedRevision cpu.revisionId = cpu.regionStamp := by
  have reported : cpu.revisionId = ((cpu.msrs Msr.vmxBasic).extractLsb' 0 31).setWidth 32 := rfl
  have top : shadowIndicator = BitVec.twoPow 32 31 := by decide
  rw [stampedRevision, reported, top, regionStamp]
  refine BitVec.eq_of_getLsbD_eq fun i inside => ?_
  rw [BitVec.getLsbD_and, BitVec.getLsbD_not, BitVec.getLsbD_twoPow, BitVec.getLsbD_setWidth,
    BitVec.getLsbD_append]
  grind

/-! ## The physical offset is never changed -/

theorem physicalOffset_answer (op : Operation) (cpu : SimulatedProcessor) :
    (hardware.answer op cpu).2.physicalOffset = cpu.physicalOffset := by
  cases op with
  | writeCr register value => cases register <;> rfl
  | vmwrite | vmxon | vmxoff | vmptrld | inveptAll =>
      simp only [hardware, answer, vmwrite, vmxon, vmxoff, vmptrld, inveptAll]
      split <;> rfl
  | vmclear address =>
      simp only [hardware, answer, vmclear]
      split
      · dsimp only
        split <;> rfl
      · rfl
  | vmlaunch =>
      simp only [hardware, answer, vmlaunch]
      split
      · rfl
      · split <;> rfl
  | _ => rfl

theorem physicalOffset_run {α : Type} (program : Program α) (cpu : SimulatedProcessor) :
    (hardware.run program cpu).2.physicalOffset = cpu.physicalOffset := by
  induction program generalizing cpu with
  | done value => rfl
  | perform op next ih => exact (ih _ _).trans (physicalOffset_answer op cpu)

end SimulatedProcessor

namespace Vcpu

open Script

/-! ## The calls as outlines -/

theorem procedure_enterVmx : (Script.enterVmx : Outline Vcpu Unit).procedure = enterVmx := rfl

theorem procedure_loadVmcs : (Script.loadVmcs : Outline Vcpu Unit).procedure = loadVmcs := rfl

theorem procedure_virtualize : (Script.virtualize : Outline Vcpu Unit).procedure = virtualize := by
  refine congrArg (get >>= ·) (funext fun vcpu => ?_)
  dsimp only
  split <;> rfl

/-! ## Regions at the time of a request -/

/-- A region that a request hands to the processor is a page of the virtual processor's own, and it
is stamped if the processor is to use it. -/
def HandsOwnPage (vcpu : Vcpu) (cpu : SimulatedProcessor)
    (moment : Moment Vcpu SimulatedProcessor) : Prop :=
  match moment.request with
  | .vmxon physical =>
      cpu.IsPage vcpu.memory.vmxonAddress physical ∧
        ∃ record, moment.record = some record ∧
          record.memory.vmxon.revision = moment.state.regionStamp
  | .vmclear physical => cpu.IsPage vcpu.memory.vmcsAddress physical
  | .vmptrld physical =>
      cpu.IsPage vcpu.memory.vmcsAddress physical ∧
        ∃ record, moment.record = some record ∧
          record.memory.vmcs.revision = moment.state.regionStamp
  | _ => True

/-- What all calls keep: the memory is where it was, addresses mean what they meant, and behind a
loaded VMCS there is a page. -/
structure Placed (vcpu : Vcpu) (cpu : SimulatedProcessor) (record : Vcpu)
    (state : SimulatedProcessor) : Prop where
  base : record.memory.base = vcpu.memory.base
  offset : state.physicalOffset = cpu.physicalOffset
  loaded : record.stage = .vmcsLoaded → ∃ vmcs, cpu.IsPage vcpu.memory.vmcsAddress vmcs

section

variable {α : Type} {vcpu record : Vcpu} {cpu state : SimulatedProcessor}

/-- Requests that hand no region to the processor. -/
abbrev Silent (op : Operation) : Prop := op.region = none

theorem handsOwnPage_of_silent {moment : Moment Vcpu SimulatedProcessor}
    (silent : Silent moment.request) : HandsOwnPage vcpu cpu moment := by
  obtain ⟨request, record, state⟩ := moment
  cases request <;> trivial

theorem silent_of_inert (op : Operation) (inert : op.Inert) : Silent op := inert.region

theorem every_part {procedure : Procedure α} (silent : procedure.run.Only Silent) :
    (Outline.part procedure).Every hardware (HandsOwnPage vcpu cpu) record state :=
  .part fun _ mem => handsOwnPage_of_silent (silent.of_mem_steps mem)

theorem every_own {program : Owned Vcpu α} (silent : (program.run record).Only Silent) :
    (Outline.own program).Every hardware (HandsOwnPage vcpu cpu) record state :=
  .own fun _ mem => handsOwnPage_of_silent (silent.of_mem_steps mem)

/-- Only the stage can break the invariant. -/
theorem Placed.execute (placed : Placed vcpu cpu record state) {procedure : Fallible Vcpu α}
    (keeps : procedure.Keeps identity)
    (loaded : (hardware.execute record state procedure).record.stage = .vmcsLoaded →
      ∃ vmcs, cpu.IsPage vcpu.memory.vmcsAddress vmcs) :
    Placed vcpu cpu (hardware.execute record state procedure).record
      (hardware.execute record state procedure).state where
  base := (congrArg Identity.base (keeps _ hardware record state)).trans placed.base
  offset := (SimulatedProcessor.physicalOffset_run _ _).trans placed.offset
  loaded := loaded

/-- What an address in the memory stands for never changes. -/
theorem Placed.physicalAddress (placed : Placed vcpu cpu record state) (distance : Word) :
    state.physicalAddress (record.memory.base + distance)
      = cpu.physicalAddress (vcpu.memory.base + distance) := by
  rw [SimulatedProcessor.physicalAddress_congr placed.offset, placed.base]

/-- What is found to be a page was one from the start. -/
theorem Placed.isPage (placed : Placed vcpu cpu record state) {region : String}
    {distance physical : Word}
    (page : state.pageAddress region (record.memory.base + distance) = .ok physical) :
    cpu.IsPage (vcpu.memory.base + distance) physical := by
  rw [SimulatedProcessor.pageAddress_congr placed.offset, placed.base] at page
  exact SimulatedProcessor.isPage_iff.2 page

/-- An outline that keeps the invariant and only hands out pages. -/
abbrev Proper (vcpu : Vcpu) (cpu : SimulatedProcessor) (outline : Outline Vcpu α) : Prop :=
  outline.Sound hardware (Placed vcpu cpu) (HandsOwnPage vcpu cpu)

theorem proper_part {procedure : Procedure α} (silent : procedure.run.Only Silent) :
    Proper vcpu cpu (.part procedure) := by
  intro record state placed
  refine ⟨every_part silent, placed.execute (.of_procedure _) ?_⟩
  rw [Outline.procedure, Hardware.execute_procedure]
  exact placed.loaded

theorem proper_own {program : Owned Vcpu α} (silent : ∀ record, (program.run record).Only Silent)
    (keeps : (liftM program : Fallible Vcpu α).Keeps identity)
    (stays : ∀ record state, (hardware.run (program.run record) state).1.2.stage = .vmcsLoaded →
      record.stage = .vmcsLoaded) : Proper vcpu cpu (.own program) := by
  intro record state placed
  refine ⟨every_own (silent record), placed.execute keeps ?_⟩
  rw [Outline.procedure, Hardware.execute_owned]
  exact placed.loaded ∘ stays record state

theorem report_proper (diagnostic : Diagnostic) :
    Proper vcpu cpu (liftM (Program.report diagnostic)) :=
  proper_part ⟨rfl, fun _ => trivial⟩

theorem get_proper : Proper vcpu cpu (get : Outline Vcpu Vcpu) :=
  proper_own (fun _ => trivial) .of_get fun _ _ => id

theorem throw_proper (error : Error) : Proper vcpu cpu (throw error : Outline Vcpu α) :=
  proper_part trivial

/-! ## The calls -/

/-- A part that makes a single request. -/
theorem every_request {procedure : Procedure α} {op : Operation}
    (single : hardware.steps procedure.run state = [(op, state)])
    (hands : HandsOwnPage vcpu cpu ⟨op, some record, state⟩) :
    (Outline.part procedure).Every hardware (HandsOwnPage vcpu cpu) record state := by
  refine .part ?_
  rw [single]
  exact List.forall_mem_singleton.2 hands

/-- A region is stamped, and its address is checked, before anything else is done with it. -/
theorem every_stamped {region : String} {stamp : BitVec 32 → VcpuMemory → VcpuMemory}
    {address : VcpuMemory → Word} {next : Word → Outline Vcpu Unit}
    (rest : ∀ physical,
      let stamped := { record with memory := stamp state.revisionId record.memory }
      state.pageAddress region (address stamped.memory) = .ok physical →
        (next physical).Every hardware (HandsOwnPage vcpu cpu) stamped state) :
    (stampRegion region stamp address >>= next : Outline Vcpu Unit).Every hardware
      (HandsOwnPage vcpu cpu) record state := by
  have reads : (liftM Support.revisionId : Procedure (BitVec 32)).run.Only Silent :=
    ⟨rfl, fun _ => trivial⟩
  have asks : (stampRegion region stamp address : Outline Vcpu Word).Every hardware
      (HandsOwnPage vcpu cpu) record state := by
    refine .bind (every_part reads) fun _ _ _ _ => .bind (every_own trivial) fun _ _ _ _ => ?_
    refine .bind (every_own trivial) fun _ _ _ _ => every_part ?_
    exact (regionAddress_inert ..).mono silent_of_inert
  refine .bind asks fun physical record' state' found => ?_
  obtain ⟨page, rfl, rfl⟩ := Execution.mk.inj ((execute_stampRegion ..).symm.trans found)
  exact rest physical page

theorem enterVmx_proper : Proper vcpu cpu Script.enterVmx := by
  intro record state placed
  refine ⟨every_stamped fun vmxon page => ?_, placed.execute (enterVmx_keeps identity_lasting) ?_⟩
  · have own := placed.isPage page
    refine .bind (every_request rfl ⟨own, _, rfl, state.stampedRevision_revisionId⟩)
      fun _ _ _ _ => ?_
    exact .bind (every_own trivial) fun _ _ _ _ => every_part ⟨rfl, fun _ => trivial⟩
  · rw [procedure_enterVmx, execute_enterVmx]
    split
    · exact placed.loaded
    · split
      · exact nofun
      · exact placed.loaded

theorem loadVmcs_proper : Proper vcpu cpu Script.loadVmcs := by
  intro record state placed
  refine ⟨every_stamped fun vmcs page => ?_, placed.execute (loadVmcs_keeps identity_lasting) ?_⟩
  · have own := placed.isPage page
    cases on : state.vmxOperation with
    | false =>
        have refused := SimulatedProcessor.run_vmclear_outside state vmcs on
        exact .bind_error (execute_instruction _ "VMCLEAR" refused) (every_request rfl own)
    | true =>
        have cleared := SimulatedProcessor.run_vmclear state vmcs on
        refine .bind_ok (execute_instruction _ "VMCLEAR" cleared) (every_request rfl own) ?_
        refine .bind (every_request rfl ⟨own, _, rfl, ?_⟩) fun _ _ _ _ => every_own trivial
        -- VMCLEAR comes in between, but leaves IA32_VMX_BASIC as it was read.
        exact state.stampedRevision_revisionId
  · rw [procedure_loadVmcs, execute_loadVmcs_stamped]
    cases page : state.pageAddress "VMCS" record.memory.vmcsAddress with
    | error error => exact placed.loaded
    | ok vmcs => exact fun _ => ⟨vmcs, placed.isPage page⟩

theorem enableVmx_proper (featureControl : FeatureControlState) :
    Proper vcpu cpu (.own (enableVmx featureControl)) := by
  refine proper_own (fun _ => ?_) (enableVmx_keeps featureControl) fun record state => ?_
  · exact enableVmx_only silent_of_inert featureControl (fun _ _ => rfl) fun _ => rfl
  · rw [run_enableVmx]
    exact nofun

theorem prepare_proper : Proper vcpu cpu (.own prepare) := by
  refine proper_own (fun _ => prepare_inert.mono silent_of_inert)
    (prepare_keeps identity_lasting) fun record state => ?_
  rw [run_prepare]
  exact id

/-- Clearing the VMCS hands out whatever its address stands for. -/
theorem mem_steps_clearVmcs {memory : VcpuMemory} {step : Operation × SimulatedProcessor}
    (mem : step ∈ hardware.steps (clearVmcs memory) cpu) :
    Silent step.1 ∨
      ∃ vmcs, step.1 = .vmclear vmcs ∧ cpu.physicalAddress memory.vmcsAddress = some vmcs := by
  rw [clearVmcs, Hardware.steps_bind, SimulatedProcessor.run_physicalAddress] at mem
  rcases List.mem_append.1 mem with mem | mem
  · exact .inl ((physicalAddress_inert _).of_mem_steps mem).region
  cases mapped : cpu.physicalAddress memory.vmcsAddress with
  | none =>
      rw [mapped] at mem
      exact .inl ((report_inert _).of_mem_steps mem).region
  | some vmcs =>
      rw [mapped] at mem
      dsimp only at mem
      rcases List.mem_cons.1 mem with rfl | mem
      · exact .inr ⟨vmcs, rfl, rfl⟩
      · cases reply : (hardware.answer (.vmclear vmcs) cpu).1 with
        | ok =>
            rw [reply] at mem
            exact absurd mem List.not_mem_nil
        | error fail =>
            rw [reply] at mem
            exact .inl ((report_inert _).of_mem_steps mem).region

/-- A teardown hands out nothing but the region of a loaded VMCS, and does not check it. -/
theorem mem_steps_teardown {step : Operation × SimulatedProcessor}
    (mem : step ∈ hardware.steps (teardown.run record) state) :
    Silent step.1 ∨ record.stage = .vmcsLoaded ∧
      ∃ vmcs, step.1 = .vmclear vmcs ∧
        state.physicalAddress record.memory.vmcsAddress = some vmcs := by
  by_cases loaded : record.stage = .vmcsLoaded
  · have pending : record.stage ≠ .launched := by
      rw [loaded]
      exact nofun
    have reached : record.stage.reached .vmcsLoaded := by
      rw [loaded]
      rfl
    have left := undoVmx_only silent_of_inert record fun _ _ => rfl
    rw [teardown_eq _ pending, undo_of_reached reached, bind_assoc, Hardware.steps_bind] at mem
    rcases List.mem_append.1 mem with mem | mem
    · exact (mem_steps_clearVmcs mem).imp_right fun clears => ⟨loaded, clears⟩
    · exact .inl ((left.bind fun _ => .pure _).of_mem_steps mem)
  · have silent := teardown_only silent_of_inert (fun _ _ => rfl) fun h => absurd h loaded
    exact .inl (silent.of_mem_steps mem)

/-- **The region that a teardown hands out is a page**, since it was one when it was loaded. -/
theorem teardown_proper : Proper vcpu cpu (.own teardown) := by
  intro record state placed
  refine ⟨.own fun step mem => ?_, placed.execute teardown_keeps ?_⟩
  · obtain silent | ⟨loaded, vmcs, clears, mapped⟩ := mem_steps_teardown mem
    · exact handsOwnPage_of_silent silent
    · -- Nothing is checked here: that the region is a page is known since the stage was set.
      obtain ⟨page, own⟩ := placed.loaded loaded
      rw [VcpuMemory.vmcsAddress, placed.physicalAddress] at mapped
      obtain rfl := Option.some.inj (mapped.symm.trans own.1)
      rw [clears]
      exact own
  · rw [Outline.procedure, Hardware.execute_owned]
    by_cases launched : record.stage = .launched
    · rw [run_teardown_of_launched _ _ launched]
      exact placed.loaded
    · rw [teardown_eq _ launched, Hardware.run_bind]
      exact fun loaded => Stage.noConfusion loaded

theorem bringUp_proper (featureControl : FeatureControlState) :
    Proper vcpu cpu (Script.bringUp featureControl) := by
  have launched : Proper vcpu cpu (.own (enter .launched)) :=
    proper_own (fun _ => trivial) (enter_keeps identity_lasting _) fun _ _ => nofun
  have fills (memory : VcpuMemory) : Proper vcpu cpu (.part (Vmcs.populate memory)) :=
    proper_part ((Vmcs.populate_filling memory).mono fun _ => Operation.Filling.region)
  refine (enableVmx_proper featureControl).bind fun _ => (report_proper _).bind fun _ => ?_
  refine enterVmx_proper.bind fun _ => (report_proper _).bind fun _ => ?_
  refine loadVmcs_proper.bind fun _ => (report_proper _).bind fun _ => ?_
  refine prepare_proper.bind fun _ => (report_proper _).bind fun _ => get_proper.bind fun vcpu => ?_
  refine (fills vcpu.memory).bind fun _ => (report_proper _).bind fun _ => ?_
  refine (proper_part (launch_only silent_of_inert rfl)).bind fun _ => launched.bind fun _ => ?_
  exact get_proper.bind fun vcpu => report_proper _

theorem attempt_proper (index : BitVec 32) : Proper vcpu cpu (attempt index) := by
  refine (report_proper _).bind fun _ => ?_
  refine (proper_part (check_inert.mono silent_of_inert)).bind fun featureControl => ?_
  refine (bringUp_proper featureControl).handle fun error => get_proper.bind fun vcpu => ?_
  exact (report_proper _).bind fun _ => teardown_proper.bind fun _ => throw_proper error

theorem virtualize_proper : Proper vcpu cpu Script.virtualize := by
  refine get_proper.bind fun found => ?_
  split
  · exact (throw_proper _).bind fun _ => attempt_proper found.index
  · exact attempt_proper found.index

end

/-! ## Calls one after the other -/

namespace Call

/-- The text of a call. -/
def outline : Call → Outline Vcpu Unit
  | .virtualize => Script.virtualize
  | .enableVmx featureControl => .own (Vcpu.enableVmx featureControl)
  | .enterVmx => Script.enterVmx
  | .loadVmcs => Script.loadVmcs
  | .prepare => .own Vcpu.prepare
  | .teardown => .own Vcpu.teardown

theorem procedure_outline (call : Call) : call.outline.procedure = call.procedure := by
  cases call with
  | virtualize => exact procedure_virtualize
  | enableVmx | enterVmx | loadVmcs | prepare | teardown => rfl

theorem outline_proper (vcpu : Vcpu) (cpu : SimulatedProcessor) (call : Call) :
    Proper vcpu cpu call.outline := by
  cases call with
  | virtualize => exact virtualize_proper
  | enableVmx featureControl => exact enableVmx_proper featureControl
  | enterVmx => exact enterVmx_proper
  | loadVmcs => exact loadVmcs_proper
  | prepare => exact prepare_proper
  | teardown => exact teardown_proper

end Call

/-- The requests that calls make, whatever each returns. -/
def stepsOfCalls (ended : Execution Vcpu SimulatedProcessor Unit) :
    List Call → List (Operation × SimulatedProcessor)
  | [] => []
  | call :: rest =>
      hardware.stepsOf ended.record ended.state call.procedure ++
        stepsOfCalls (afterCall ended call) rest

/-- The requests that calls make, with the virtual processor as it is then. -/
def momentsOfCalls (ended : Execution Vcpu SimulatedProcessor Unit) :
    List Call → List (Moment Vcpu SimulatedProcessor)
  | [] => []
  | call :: rest =>
      call.outline.moments hardware ended.record ended.state ++
        momentsOfCalls (afterCall ended call) rest

theorem map_momentsOfCalls (ended : Execution Vcpu SimulatedProcessor Unit) (calls : List Call) :
    (momentsOfCalls ended calls).map (fun moment => (moment.request, moment.state))
      = stepsOfCalls ended calls := by
  induction calls generalizing ended with
  | nil => rfl
  | cons call rest ih =>
      rw [momentsOfCalls, stepsOfCalls, List.map_append, Outline.map_moments,
        call.procedure_outline, ih]

theorem handsOwnPage_of_mem {vcpu : Vcpu} {cpu : SimulatedProcessor}
    {ended : Execution Vcpu SimulatedProcessor Unit} {calls : List Call}
    (placed : Placed vcpu cpu ended.record ended.state) :
    ∀ moment ∈ momentsOfCalls ended calls, HandsOwnPage vcpu cpu moment := by
  induction calls generalizing ended with
  | nil => exact fun _ mem => absurd mem List.not_mem_nil
  | cons call rest ih =>
      obtain ⟨holds, after⟩ := call.outline_proper vcpu cpu _ _ placed
      rw [call.procedure_outline] at after
      exact List.forall_mem_append.2 ⟨holds, ih after⟩

/-- **Every region that calls hand to the processor is a page of the virtual processor's own**, the
one that its VMXON or VMCS region is translated to, and whenever VMXON or VMPTRLD sees a region, its
first word is IA32_VMX_BASIC bits 30:0 with bit 31 clear.  The calls come in any order and may fail,
at any physical offset and with any content of the regions.  A new virtual processor has no loaded
VMCS, so that `loaded` asks nothing of it. -/
theorem regions_are_stamped_pages (vcpu : Vcpu) (cpu : SimulatedProcessor) (calls : List Call)
    (loaded : vcpu.stage = .vmcsLoaded → ∃ vmcs, cpu.IsPage vcpu.memory.vmcsAddress vmcs) :
    let moments := momentsOfCalls ⟨.ok (), vcpu, cpu⟩ calls
    moments.map (fun moment => (moment.request, moment.state))
        = stepsOfCalls ⟨.ok (), vcpu, cpu⟩ calls ∧
      ∀ moment ∈ moments, HandsOwnPage vcpu cpu moment := by
  have placed : Placed vcpu cpu vcpu cpu := ⟨rfl, rfl, loaded⟩
  exact ⟨map_momentsOfCalls _ calls, handsOwnPage_of_mem placed⟩

/-- A teardown behind a loaded VMCS, where the processor reports a revision with bit 31 set. -/
theorem regions_are_stamped_pages_teardown :
    let vcpu := fresh 0 0x1c000 0x10000 .empty {}
    let cpu := { SimulatedProcessor.reset.setMsr Msr.vmxBasic 0x80000004 with
      physicalOffset := 0x3000 }
    let calls : List Call := [.enableVmx .enabled, .enterVmx, .loadVmcs, .teardown]
    let moments := momentsOfCalls ⟨.ok (), vcpu, cpu⟩ calls
    moments.filterMap (fun moment => moment.request.region)
        = [0x19000, 0x1a000, 0x1a000, 0x1a000] ∧
      ∀ moment ∈ moments, HandsOwnPage vcpu cpu moment := by
  have unloaded : (fresh 0 0x1c000 0x10000 .empty {}).stage ≠ .vmcsLoaded := nofun
  refine ⟨by decide, (regions_are_stamped_pages _ _ _ fun loaded => ?_).2⟩
  exact absurd loaded unloaded

end Vcpu

end VtxMonitor
