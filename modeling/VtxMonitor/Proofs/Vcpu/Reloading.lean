import VtxMonitor.Proofs.Vcpu.Lifecycle

/-!
# Proofs/Vcpu/Reloading — loading the VMCS happens wholly or not at all, and can be repeated

A load that fails leaves stage, current VMCS and registers alone, whatever refused it; one that
succeeds makes the virtual processor's own VMCS current.  **Behind a load, any number of further
ones only adds to the events** (`Reloadable.again`, `Reloadable.afterLoads`), although each of them
clears the VMCS first and so passes through a state in which no VMCS is current.
-/

namespace VtxMonitor.Vcpu

open SimulatedProcessor (hardware)

variable {vcpu : Vcpu} {cpu : SimulatedProcessor} {vmcs : Word}
  {ended : Execution Vcpu SimulatedProcessor Unit}

/-! ## A single load -/

/-- **When the VMCS can be loaded**: in VMX operation, if its region is a page. -/
theorem loadVmcs_succeeds_iff :
    (hardware.execute vcpu cpu loadVmcs).outcome = .ok () ↔
      cpu.vmxOperation = true ∧
        ∃ vmcs, cpu.pageAddress "VMCS" vcpu.memory.vmcsAddress = .ok vmcs := by
  cases on : cpu.vmxOperation with
  | false =>
      rw [execute_loadVmcs_outside _ _ on]
      cases cpu.pageAddress "VMCS" vcpu.memory.vmcsAddress <;> simp
  | true =>
      rw [execute_loadVmcs _ _ on]
      cases cpu.pageAddress "VMCS" vcpu.memory.vmcsAddress <;> simp

/-- **A load that fails changes nothing** but the events, and the region in memory. -/
theorem loadVmcs_failed {error : Error}
    (fails : (hardware.execute vcpu cpu loadVmcs).outcome = .error error) :
    (hardware.execute vcpu cpu loadVmcs).record = vcpu.vmcsStamped cpu ∧
      ∃ events, (hardware.execute vcpu cpu loadVmcs).state = { cpu with events } := by
  by_cases on : cpu.vmxOperation = true
  · rw [execute_loadVmcs _ _ on] at fails ⊢
    cases page : cpu.pageAddress "VMCS" vcpu.memory.vmcsAddress with
    | error error => exact ⟨rfl, cpu.events, rfl⟩
    | ok vmcs =>
        rw [page] at fails
        exact nomatch fails
  · rw [execute_loadVmcs_outside _ _ (Bool.eq_false_iff.2 on)]
    cases cpu.pageAddress "VMCS" vcpu.memory.vmcsAddress with
    | error error => exact ⟨rfl, cpu.events, rfl⟩
    | ok vmcs => exact ⟨rfl, cpu.events ++ [.vmclear vmcs], rfl⟩

/-! ## Loading again -/

/-- An execution with further events. -/
def logging (events : List Event) (ended : Execution Vcpu SimulatedProcessor Unit) :
    Execution Vcpu SimulatedProcessor Unit :=
  { ended with state := { ended.state with events := ended.state.events ++ events } }

@[simp] theorem logging_nil : logging [] ended = ended := by
  rw [logging, List.append_nil]

@[simp] theorem logging_logging (first second : List Event) :
    logging second (logging first ended) = logging (first ++ second) ended := by
  simp only [logging, List.append_assoc]

/-- What a load leaves: the virtual processor's own VMCS is current, and another load finds its
region as it is to be. -/
structure Reloadable (vmcs : Word) (ended : Execution Vcpu SimulatedProcessor Unit) : Prop where
  outcome : ended.outcome = .ok ()
  on : ended.state.vmxOperation = true
  region : ended.state.pageAddress "VMCS" ended.record.memory.vmcsAddress = .ok vmcs
  stamped : ended.record.vmcsStamped ended.state = ended.record
  stage : ended.record.stage = .vmcsLoaded
  current : ended.state.currentVmcs = some vmcs

/-- A load that succeeds. -/
theorem reloadable_of_loadVmcs (on : cpu.vmxOperation = true)
    (page : cpu.pageAddress "VMCS" vcpu.memory.vmcsAddress = .ok vmcs) :
    Reloadable vmcs (hardware.execute vcpu cpu loadVmcs) := by
  have offset : (cpu.withVmcsLoaded vmcs).physicalOffset = cpu.physicalOffset := rfl
  have region := (SimulatedProcessor.pageAddress_congr offset "VMCS" _).trans page
  rw [execute_loadVmcs _ _ on, page]
  exact ⟨rfl, on, region, rfl, rfl, rfl⟩

namespace Reloadable

theorem logging (loaded : Reloadable vmcs ended) (events : List Event) :
    Reloadable vmcs (logging events ended) := by
  have offset : (Vcpu.logging events ended).state.physicalOffset = ended.state.physicalOffset := rfl
  have region := (SimulatedProcessor.pageAddress_congr offset "VMCS" _).trans loaded.region
  exact ⟨loaded.outcome, loaded.on, region, loaded.stamped, loaded.stage, loaded.current⟩

/-- **Another load adds its two events and nothing else.** -/
theorem again (loaded : Reloadable vmcs ended) :
    afterCall ended .loadVmcs = Vcpu.logging [.vmclear vmcs, .vmptrld vmcs] ended := by
  have again : afterCall ended .loadVmcs
      = ⟨.ok (), (ended.record.vmcsStamped ended.state).atStage .vmcsLoaded,
        ended.state.withVmcsLoaded vmcs⟩ := by
    rw [afterCall, Call.procedure, execute_loadVmcs _ _ loaded.on, loaded.region]
  have stage : ended.record.atStage .vmcsLoaded = ended.record := by
    rw [atStage, ← loaded.stage]
  have current : ended.state.withVmcsLoaded vmcs
      = { ended.state with events := ended.state.events ++ [.vmclear vmcs, .vmptrld vmcs] } := by
    rw [SimulatedProcessor.withVmcsLoaded, ← loaded.current]
  rw [again, loaded.stamped, stage, current, Vcpu.logging, loaded.outcome]

/-- **Any number of further loads** adds these events as often. -/
theorem afterLoads (loaded : Reloadable vmcs ended) (count : Nat) :
    afterCalls ended (List.replicate count .loadVmcs)
      = Vcpu.logging (List.replicate count [.vmclear vmcs, .vmptrld vmcs]).flatten ended := by
  induction count generalizing ended with
  | zero => exact logging_nil.symm
  | succ count ih =>
      rw [List.replicate_succ, afterCalls, List.foldl_cons, ← afterCalls, loaded.again,
        ih (loaded.logging _), logging_logging, List.replicate_succ, List.flatten_cons]

end Reloadable

/-! ## The result -/

/-- **Loading the VMCS is all-or-nothing and idempotent**, from every state of the simulated
processor and of the virtual processor, whatever VMCS is current.  If it fails, the stage stays,
and of the processor only the events change; if it succeeds, the VMCS in the virtual processor's
own region is current, and repeating it any number of times succeeds and changes nothing but the
events. -/
theorem loadVmcs_atomic_idempotent (vcpu : Vcpu) (cpu : SimulatedProcessor) :
    let ended := hardware.execute vcpu cpu loadVmcs
    (∀ error, ended.outcome = .error error →
      ended.record.stage = vcpu.stage ∧ ∃ events, ended.state = { cpu with events }) ∧
    (ended.outcome = .ok () → ∃ vmcs,
      cpu.physicalAddress vcpu.memory.vmcsAddress = some vmcs ∧
      ended.state.currentVmcs = some vmcs ∧ ended.record.stage = .vmcsLoaded ∧
      ∀ count, afterCalls ended (List.replicate count .loadVmcs)
        = ⟨.ok (), ended.record, { ended.state with
            events := ended.state.events ++
              (List.replicate count [.vmclear vmcs, .vmptrld vmcs]).flatten }⟩) := by
  refine ⟨fun error fails => ?_, fun succeeds => ?_⟩
  · obtain ⟨record, state⟩ := loadVmcs_failed fails
    exact ⟨by rw [record]; rfl, state⟩
  · obtain ⟨on, vmcs, page⟩ := loadVmcs_succeeds_iff.1 succeeds
    have loaded := reloadable_of_loadVmcs on page
    refine ⟨vmcs, (SimulatedProcessor.pageAddress_eq_ok.1 page).1, loaded.current, loaded.stage,
      fun count => ?_⟩
    rw [loaded.afterLoads count, logging, succeeds]

/-- A processor in VMX operation with some VMCS current. -/
def foreignProcessor : SimulatedProcessor :=
  { SimulatedProcessor.reset with vmxOperation := true, currentVmcs := some 0x5000 }

/-- Loads of a virtual processor whose guest runs from another VMCS, and one outside of VMX
operation. -/
theorem loadVmcs_atomic_idempotent_foreign :
    let vcpu := { fresh 0 0x1c000 0x10000 .empty {} with stage := .launched }
    let ended := hardware.execute vcpu foreignProcessor loadVmcs
    (hardware.execute vcpu SimulatedProcessor.reset loadVmcs).record.stage = .launched ∧
    (afterCalls ended (List.replicate 2 .loadVmcs)).outcome = .ok () ∧
    (afterCalls ended (List.replicate 2 .loadVmcs)).state.events = ended.state.events ++
      [.vmclear 0x17000, .vmptrld 0x17000, .vmclear 0x17000, .vmptrld 0x17000] := by
  intro vcpu ended
  have address : vcpu.memory.vmcsAddress = 0x17000 := by decide
  have page : SimulatedProcessor.reset.pageAddress "VMCS" vcpu.memory.vmcsAddress
      = .ok 0x17000 := by
    rw [address]
    exact SimulatedProcessor.pageAddress_eq_ok.2 ⟨by decide, by decide⟩
  have offset : foreignProcessor.physicalOffset = SimulatedProcessor.reset.physicalOffset := rfl
  have region : foreignProcessor.pageAddress "VMCS" vcpu.memory.vmcsAddress = .ok 0x17000 :=
    (SimulatedProcessor.pageAddress_congr offset "VMCS" _).trans page
  have refused : (hardware.execute vcpu SimulatedProcessor.reset loadVmcs).outcome
      = .error (.vmxInstruction "VMCLEAR" .invalid) := by
    rw [execute_loadVmcs_outside _ _ rfl, page]
  obtain ⟨stays, -⟩ := (loadVmcs_atomic_idempotent vcpu SimulatedProcessor.reset).1 _ refused
  obtain ⟨vmcs, own, -, -, again⟩ := (loadVmcs_atomic_idempotent vcpu foreignProcessor).2
    (loadVmcs_succeeds_iff.2 ⟨rfl, 0x17000, region⟩)
  obtain rfl : 0x17000 = vmcs := Option.some.inj
    ((SimulatedProcessor.pageAddress_eq_ok.1 region).1.symm.trans own)
  rw [again 2]
  exact ⟨stays, rfl, rfl⟩

end VtxMonitor.Vcpu
