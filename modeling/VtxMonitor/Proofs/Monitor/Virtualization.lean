import VtxMonitor.Proofs.Monitor.Configuration
import VtxMonitor.Proofs.Vcpu.Lifecycle
import VtxMonitor.Proofs.Vcpu.Residue

/-!
# Proofs/Monitor/Virtualization — all processors, one after another, up to the first failure

At each index there is a virtual processor, a processor, both or neither: a `Site`.  A site is
virtualized on its own (`Site.virtualized`), and virtualizing a list of virtual processors does just
that at every index up to the first site that does not succeed (`virtualizeAll_reached`).  Together
with the laws of a single virtualization: **what is before the first failure runs its guest, what
fails is rolled back, and nothing behind it is touched** (`virtualize_upTo_firstFailure`).
-/

namespace VtxMonitor

open SimulatedProcessor (hardware)

/-! ## Sites -/

/-- What there is at an index. -/
@[ext]
structure Site where
  vcpu : Option Vcpu
  cpu : Option SimulatedProcessor

namespace Site

/-- The site behind the virtualization of its virtual processor on its processor; without one of
them nothing happens. -/
def virtualized : Site → Site
  | ⟨some vcpu, some cpu⟩ =>
      let ended := hardware.execute vcpu cpu Vcpu.virtualize
      ⟨some ended.record, some ended.state⟩
  | site => site

/-- Whether there is a virtual processor that is virtualized on an existing processor. -/
def Succeeds (site : Site) : Prop :=
  ∃ vcpu cpu, site = ⟨some vcpu, some cpu⟩ ∧
    (hardware.execute vcpu cpu Vcpu.virtualize).outcome = .ok ()

theorem virtualized_of_missing {site : Site} (missing : site.cpu = none) :
    site.virtualized = site := by
  obtain ⟨_ | vcpu, cpu⟩ := site
  · rfl
  · obtain rfl : cpu = none := missing
    rfl

theorem virtualized_of_vacant {site : Site} (vacant : site.vcpu = none) :
    site.virtualized = site := by
  obtain ⟨vcpu, cpu⟩ := site
  obtain rfl : vcpu = none := vacant
  rfl

theorem not_succeeds_of_missing {site : Site} (missing : site.cpu = none) : ¬site.Succeeds := by
  rintro ⟨vcpu, cpu, rfl, -⟩
  exact nomatch missing

theorem succeeds_iff {vcpu : Vcpu} {cpu : SimulatedProcessor} :
    Site.Succeeds ⟨some vcpu, some cpu⟩
      ↔ (hardware.execute vcpu cpu Vcpu.virtualize).outcome = .ok () := by
  constructor
  · rintro ⟨vcpu', cpu', same, succeeds⟩
    obtain ⟨rfl, rfl⟩ : vcpu = vcpu' ∧ cpu = cpu' := by simpa using same
    exact succeeds
  · exact fun succeeds => ⟨vcpu, cpu, rfl, succeeds⟩

/-- A site that can be asked to virtualize: its virtual processor carries the index and is off or
runs its guest, and a current VMCS implies VMX operation. -/
structure Ready (i : Nat) (site : Site) : Prop where
  indexed : ∀ vcpu, site.vcpu = some vcpu → vcpu.index.toNat = i
  stage : ∀ vcpu, site.vcpu = some vcpu → vcpu.stage = .off ∨ vcpu.stage = .launched
  current : ∀ cpu, site.cpu = some cpu → cpu.currentVmcs.isSome → cpu.vmxOperation = true

/-- What a virtualization at a site leaves: a guest that runs, the state before it but for what a
rollback leaves, or the state before it. -/
theorem virtualized_cases {vcpu : Vcpu} {cpu : SimulatedProcessor}
    (stage : vcpu.stage = .off ∨ vcpu.stage = .launched)
    (current : cpu.currentVmcs.isSome → cpu.vmxOperation = true) :
    let own := hardware.execute vcpu cpu Vcpu.virtualize
    own.outcome = .ok () ∧ own.record.stage = .launched ∧ own.state.vmxOperation = true ∨
    own.outcome ≠ .ok () ∧ vcpu.stage = .off ∧ own.record.stage = .off ∧ cpu.RestoredTo own.state ∨
    own.outcome ≠ .ok () ∧ vcpu.stage = .launched ∧ own.record = vcpu ∧ own.state = cpu := by
  intro own
  rcases stage with off | launched
  · cases outcome : own.outcome with
    | ok value =>
        have runs := Vcpu.runsFrom_of_virtualize outcome
        exact .inl ⟨rfl, runs.stage, runs.on⟩
    | error error =>
        obtain ⟨vcpus, cpus⟩ := Vcpu.residue_of_failure current off outcome
        exact .inr (.inl ⟨nofun, off, vcpus.stage.trans off, cpus.restoredTo⟩)
  · have busy : vcpu.stage ≠ .off := by
      rw [launched]
      exact nofun
    have ended : own = _ := Vcpu.execute_virtualize_of_busy busy
    rw [ended]
    exact .inr (.inr ⟨nofun, launched, rfl, rfl⟩)

/-- **A site stays ready.** -/
theorem Ready.virtualized {i : Nat} {site : Site} (ready : site.Ready i) :
    site.virtualized.Ready i := by
  obtain ⟨_ | vcpu, cpu⟩ := site
  · exact ready
  cases cpu with
  | none => exact ready
  | some cpu =>
      have kept := congrArg (·.index.toNat) (Vcpu.virtualize_keeps _ hardware vcpu cpu)
      have ends := virtualized_cases (ready.stage vcpu rfl) (ready.current cpu rfl)
      refine ⟨?_, ?_, ?_⟩
      · rintro _ ⟨⟩
        exact kept.trans (ready.indexed vcpu rfl)
      · rintro _ ⟨⟩
        obtain ⟨-, launched, -⟩ | ⟨-, -, off, -⟩ | ⟨-, launched, same, -⟩ := ends
        · exact .inr launched
        · exact .inl off
        · exact .inr ((congrArg Vcpu.stage same).trans launched)
      · rintro _ ⟨⟩
        obtain ⟨-, -, on⟩ | ⟨-, -, -, restored⟩ | ⟨-, -, -, same⟩ := ends
        · exact fun _ => on
        · rw [restored.currentVmcs, restored.vmxOperation]
          exact ready.current cpu rfl
        · rw [same]
          exact ready.current cpu rfl

end Site

/-- The site of the `j`-th virtual processor of a list that starts at the index `first`. -/
def siteAt (first : Nat) (vcpus : List Vcpu) (processors : List SimulatedProcessor) (j : Nat) :
    Site :=
  ⟨vcpus[j]?, processors[first + j]?⟩

/-! ## One virtual processor of the list -/

namespace Monitor

variable {σ : Type} {hw : Hardware σ} {vcpu record : Vcpu} {rest : List Vcpu}
  {platform : Platform σ} {s s' : σ}

theorem virtualizeAll_of_missing
    (missing : platform.processors[vcpu.index.toNat]? = none) :
    virtualizeAll hw (vcpu :: rest) platform
      = (false, vcpu :: rest, platform.report (.switchFailed vcpu.index)) := by
  rw [virtualizeAll, Platform.runOn_of_none _ missing]

/-- A virtualization that fails ends the list. -/
theorem virtualizeAll_of_error {error : Error}
    (found : platform.processors[vcpu.index.toNat]? = some s)
    (fails : hw.execute vcpu s Vcpu.virtualize = ⟨.error error, record, s'⟩) :
    ∃ journal, virtualizeAll hw (vcpu :: rest) platform
      = (false, record :: rest,
          { platform with
            processors := platform.processors.set vcpu.index.toNat s'
            journal }) := by
  obtain ⟨journal, ran⟩ := Platform.runOn_of_some (Vcpu.virtualize.start vcpu) found
  rw [hw.run_start_of_execute fails] at ran
  exact ⟨journal.add (.virtualizationFailed record.index error), by rw [virtualizeAll, ran]; rfl⟩

/-- Behind a virtualization that succeeds, the rest of the list is virtualized. -/
theorem virtualizeAll_of_ok
    (found : platform.processors[vcpu.index.toNat]? = some s)
    (succeeds : hw.execute vcpu s Vcpu.virtualize = ⟨.ok (), record, s'⟩) :
    ∃ journal, virtualizeAll hw (vcpu :: rest) platform
      = let ended := virtualizeAll hw rest
          { platform with
            processors := platform.processors.set vcpu.index.toNat s'
            journal }
        (ended.1, record :: ended.2.1, ended.2.2) := by
  obtain ⟨journal, ran⟩ := Platform.runOn_of_some (Vcpu.virtualize.start vcpu) found
  rw [hw.run_start_of_execute succeeds] at ran
  exact ⟨journal, by rw [virtualizeAll, ran]⟩

end Monitor

/-! ## All virtual processors of a list -/

/-- Whether all sites before an index succeed, so that the index is reached. -/
def Reaches (sites : Nat → Site) (j : Nat) : Prop := ∀ i < j, (sites i).Succeeds

theorem reaches_succ {sites : Nat → Site} {j : Nat} :
    Reaches sites (j + 1) ↔ (sites 0).Succeeds ∧ Reaches (fun i => sites (i + 1)) j :=
  Nat.forall_lt_succ_left

/-- The sites of the rest of a list are those behind the first one. -/
theorem siteAt_cons (first : Nat) (vcpu : Vcpu) (rest : List Vcpu)
    (processors : List SimulatedProcessor) (j : Nat) :
    siteAt first (vcpu :: rest) processors (j + 1) = siteAt (first + 1) rest processors j := by
  rw [siteAt, siteAt, List.getElem?_cons_succ, Nat.add_right_comm, Nat.add_assoc]

/-- A processor that is replaced is at no later site. -/
theorem siteAt_set (first : Nat) (rest : List Vcpu) (processors : List SimulatedProcessor)
    (cpu : SimulatedProcessor) (j : Nat) :
    siteAt (first + 1) rest (processors.set first cpu) j
      = siteAt (first + 1) rest processors j := by
  rw [siteAt, siteAt, List.getElem?_set_ne (by omega)]

/-- **What virtualizing a list does**: every site that is reached is virtualized on its own, and all
other sites stay as they are.  Whether all of them were reached and succeeded is the answer. -/
structure VirtualizesReached (first : Nat) (vcpus : List Vcpu)
    (processors : List SimulatedProcessor) (success : Bool) (vcpus' : List Vcpu)
    (processors' : List SimulatedProcessor) : Prop where
  success_iff : success = true ↔ Reaches (siteAt first vcpus processors) vcpus.length
  reached : ∀ j, Reaches (siteAt first vcpus processors) j →
    siteAt first vcpus' processors' j = (siteAt first vcpus processors j).virtualized
  behind : ∀ j, ¬Reaches (siteAt first vcpus processors) j →
    siteAt first vcpus' processors' j = siteAt first vcpus processors j
  before : ∀ i < first, processors'[i]? = processors[i]?

namespace VirtualizesReached

variable {first : Nat} {vcpu record : Vcpu} {rest rest' : List Vcpu}
  {processors processors' : List SimulatedProcessor} {cpu state : SimulatedProcessor}

/-- If the first site fails, no other one is reached. -/
theorem of_failure (fails : ¬(siteAt first (vcpu :: rest) processors 0).Succeeds)
    (here : siteAt first (record :: rest) processors' 0
      = (siteAt first (vcpu :: rest) processors 0).virtualized)
    (others : ∀ i, i ≠ first → processors'[i]? = processors[i]?) :
    VirtualizesReached first (vcpu :: rest) processors false (record :: rest) processors' where
  success_iff := ⟨nofun, fun reached => absurd (reached 0 (Nat.succ_pos _)) fails⟩
  reached j reached := by
    cases j with
    | zero => exact here
    | succ j => exact absurd (reached 0 (Nat.succ_pos j)) fails
  behind j missed := by
    cases j with
    | zero => exact absurd nofun missed
    | succ j =>
        rw [siteAt_cons, siteAt_cons, siteAt, siteAt, others (first + 1 + j) (by omega)]
  before i lt := others i (Nat.ne_of_lt lt)

/-- If the first site succeeds, the others are virtualized as they are. -/
theorem of_success (found : processors[first]? = some cpu)
    (succeeds : hardware.execute vcpu cpu Vcpu.virtualize = ⟨.ok (), record, state⟩)
    {success : Bool}
    (others : VirtualizesReached (first + 1) rest (processors.set first state) success rest'
      processors') :
    VirtualizesReached first (vcpu :: rest) processors success (record :: rest') processors' := by
  have site : siteAt first (vcpu :: rest) processors 0 = ⟨some vcpu, some cpu⟩ := by
    rw [siteAt, Nat.add_zero, found]
    rfl
  have here : (siteAt first (vcpu :: rest) processors 0).Succeeds := by
    rw [site, Site.succeeds_iff, succeeds]
  have state' : processors'[first]? = some state := by
    rw [others.before first (Nat.lt_succ_self first), List.getElem?_set_self']
    rw [found]
    rfl
  have sites : ∀ j, siteAt (first + 1) rest (processors.set first state) j
      = siteAt first (vcpu :: rest) processors (j + 1) := fun j => by
    rw [siteAt_set, siteAt_cons]
  have reaches : ∀ j, Reaches (siteAt first (vcpu :: rest) processors) (j + 1)
      ↔ Reaches (siteAt (first + 1) rest (processors.set first state)) j := fun j => by
    rw [reaches_succ, and_iff_right here, funext sites]
  refine ⟨?_, fun j reached => ?_, fun j missed => ?_, fun i lt => ?_⟩
  · rw [others.success_iff, List.length_cons, reaches]
  · cases j with
    | zero =>
        rw [site, Site.virtualized, succeeds, siteAt, Nat.add_zero, state']
        rfl
    | succ j =>
        rw [siteAt_cons, others.reached j ((reaches j).1 reached), sites]
  · cases j with
    | zero => exact absurd nofun missed
    | succ j =>
        rw [siteAt_cons, others.behind j fun reached => missed ((reaches j).2 reached), sites]
  · rw [others.before i (Nat.lt_succ_of_lt lt), List.getElem?_set_ne (Nat.ne_of_gt lt)]

end VirtualizesReached

/-- **A list of virtual processors is virtualized up to the first failure.** -/
theorem Monitor.virtualizeAll_reached (vcpus : List Vcpu) (first : Nat)
    (platform : Platform SimulatedProcessor)
    (indexed : ∀ j vcpu, vcpus[j]? = some vcpu → vcpu.index.toNat = first + j) :
    let ended := virtualizeAll hardware vcpus platform
    VirtualizesReached first vcpus platform.processors ended.1 ended.2.1 ended.2.2.processors := by
  induction vcpus generalizing first platform with
  | nil =>
      refine ⟨⟨fun _ => nofun, fun _ => rfl⟩, fun j _ => rfl, fun j _ => rfl, fun i _ => rfl⟩
  | cons vcpu rest ih =>
      have here : vcpu.index.toNat = first := indexed 0 vcpu rfl
      cases found : platform.processors[first]? with
      | none =>
          have missing : (siteAt first (vcpu :: rest) platform.processors 0).cpu = none := found
          rw [virtualizeAll_of_missing (here ▸ found)]
          exact .of_failure (Site.not_succeeds_of_missing missing)
            (Site.virtualized_of_missing missing).symm fun _ _ => rfl
      | some cpu =>
          have site : siteAt first (vcpu :: rest) platform.processors 0
              = ⟨some vcpu, some cpu⟩ := by
            rw [siteAt, Nat.add_zero, found]
            rfl
          rcases ended : hardware.execute vcpu cpu Vcpu.virtualize
            with ⟨error | ⟨⟩, record, state⟩
          · obtain ⟨journal, stopped⟩ := virtualizeAll_of_error (here ▸ found) ended
            rw [stopped, here]
            refine .of_failure ?_ ?_ fun i other => List.getElem?_set_ne other.symm
            · rw [site, Site.succeeds_iff, ended]
              exact nofun
            · rw [site, Site.virtualized, ended, siteAt, Nat.add_zero, List.getElem?_set_self',
                found]
              rfl
          · obtain ⟨journal, goesOn⟩ := virtualizeAll_of_ok (here ▸ found) ended
            have later : ∀ j vcpu, rest[j]? = some vcpu → vcpu.index.toNat = first + 1 + j := by
              intro j vcpu mem
              rw [indexed (j + 1) vcpu mem, Nat.add_assoc, Nat.add_comm 1]
            rw [goesOn, here]
            exact .of_success found ended (ih (first + 1)
              { platform with processors := platform.processors.set first state, journal } later)

/-! ## The whole monitor -/

namespace Monitor

/-- The site at an index of a platform with a monitor. -/
def site (monitor : Monitor) (platform : Platform SimulatedProcessor) (i : Nat) : Site :=
  ⟨monitor.vcpus[i]?, platform.processors[i]?⟩

theorem site_eq (monitor : Monitor) (platform : Platform SimulatedProcessor) :
    monitor.site platform = siteAt 0 monitor.vcpus platform.processors := by
  funext i
  rw [site, siteAt, Nat.zero_add]

/-- A monitor that can be asked to virtualize its platform. -/
def Ready (monitor : Monitor) (platform : Platform SimulatedProcessor) : Prop :=
  ∀ i, (monitor.site platform i).Ready i

/-- The first index of a virtual processor without a processor, or whose virtualization on its
processor fails. -/
structure FirstFailure (monitor : Monitor) (platform : Platform SimulatedProcessor) (k : Nat) :
    Prop where
  lt : k < monitor.vcpus.length
  fails : ¬(monitor.site platform k).Succeeds
  before : ∀ i < k, (monitor.site platform i).Succeeds

/-- Without a first failure there is no failure at all. -/
theorem reaches_iff {monitor : Monitor} {platform : Platform SimulatedProcessor} {j : Nat}
    (inside : j ≤ monitor.vcpus.length) :
    Reaches (monitor.site platform) j ↔ ∀ k, FirstFailure monitor platform k → j ≤ k := by
  constructor
  · intro reached k first
    exact Nat.le_of_not_lt fun lt => first.fails (reached k lt)
  · intro none i
    -- Every index is reached from the ones before it, so a failure would be a first one.
    induction i using Nat.strongRecOn with
    | ind i ih =>
        refine fun lt => Classical.byContradiction fun fails => ?_
        have first : FirstFailure monitor platform i :=
          ⟨Nat.lt_of_lt_of_le lt inside, fails, fun i' lt' => ih i' lt' (Nat.lt_trans lt' lt)⟩
        exact absurd (none i first) (Nat.not_le.2 lt)

/-- **What is left by virtualizing a monitor's platform.** -/
structure UpToFirstFailure (monitor : Monitor) (platform : Platform SimulatedProcessor)
    (success : Bool) (monitor' : Monitor) (platform' : Platform SimulatedProcessor) : Prop where
  success_iff : success = true ↔ ¬∃ k, FirstFailure monitor platform k
  /-- Before the first failure everything is as after its own virtualization, and the guest runs. -/
  before : ∀ i < monitor.vcpus.length, (∀ k, FirstFailure monitor platform k → i < k) →
    ∃ vcpu cpu, monitor.site platform i = ⟨some vcpu, some cpu⟩ ∧
      let own := hardware.execute vcpu cpu Vcpu.virtualize
      monitor'.site platform' i = ⟨some own.record, some own.state⟩ ∧ own.outcome = .ok () ∧
        own.record.stage = .launched
  /-- Where it fails, everything is as after its own failed virtualization. -/
  failed : ∀ k vcpu cpu, FirstFailure monitor platform k →
    monitor.site platform k = ⟨some vcpu, some cpu⟩ →
      let own := hardware.execute vcpu cpu Vcpu.virtualize
      monitor'.site platform' k = ⟨some own.record, some own.state⟩ ∧
        (vcpu.stage = .off → own.record.stage = .off ∧ cpu.RestoredTo own.state) ∧
        (vcpu.stage = .launched → own.record = vcpu ∧ own.state = cpu)
  /-- A virtual processor without a processor is left alone. -/
  missing : ∀ k, FirstFailure monitor platform k → platform.processors[k]? = none →
    monitor'.site platform' k = monitor.site platform k
  behind : ∀ k i, FirstFailure monitor platform k → k < i →
    monitor'.site platform' i = monitor.site platform i
  /-- Processors without a virtual processor are left alone. -/
  others : ∀ i, monitor.vcpus.length ≤ i →
    monitor'.site platform' i = monitor.site platform i

section Virtualize

variable {monitor : Monitor} {platform : Platform SimulatedProcessor}
  (ready : monitor.Ready platform)
include ready

/-- Virtualizing a platform, index by index. -/
theorem virtualize_reached :
    let ended := monitor.virtualize hardware platform
    VirtualizesReached 0 monitor.vcpus platform.processors ended.1 ended.2.1.vcpus
      ended.2.2.processors :=
  virtualizeAll_reached monitor.vcpus 0 (platform.report .virtualizingProcessors)
    fun i vcpu mem => ((ready i).indexed vcpu mem).trans (Nat.zero_add i).symm

theorem site_of_reached {i : Nat} (reached : Reaches (monitor.site platform) i) :
    let ended := monitor.virtualize hardware platform
    ended.2.1.site ended.2.2 i = (monitor.site platform i).virtualized := by
  intro ended
  rw [site_eq] at reached
  rw [site_eq, site_eq]
  exact (virtualize_reached ready).reached i reached

theorem site_of_unreached {i : Nat} (unreached : ¬Reaches (monitor.site platform) i) :
    let ended := monitor.virtualize hardware platform
    ended.2.1.site ended.2.2 i = monitor.site platform i := by
  intro ended
  rw [site_eq] at unreached
  rw [site_eq, site_eq]
  exact (virtualize_reached ready).behind i unreached

/-- **A monitor stays ready**, so that it can be asked again. -/
theorem Ready.virtualize :
    let ended := monitor.virtualize hardware platform
    ended.2.1.Ready ended.2.2 := by
  intro ended i
  by_cases reached : Reaches (monitor.site platform) i
  · rw [site_of_reached ready reached]
    exact (ready i).virtualized
  · rw [site_of_unreached ready reached]
    exact ready i

end Virtualize

/-- **Processors are virtualized up to the first failure**: the ones before it run their guests, the
one that fails is rolled back, and everything behind it stays as it is. -/
theorem virtualize_upTo_firstFailure (monitor : Monitor) (platform : Platform SimulatedProcessor)
    (ready : monitor.Ready platform) :
    let ended := monitor.virtualize hardware platform
    monitor.UpToFirstFailure platform ended.1 ended.2.1 ended.2.2 := by
  intro ended
  refine ⟨?_, fun i lt none => ?_, fun k vcpu cpu first site => ⟨?_, ?_⟩, ?_, ?_, ?_⟩
  · have all : ended.1 = true ↔ Reaches (monitor.site platform) monitor.vcpus.length := by
      rw [site_eq]
      exact (virtualize_reached ready).success_iff
    rw [all, reaches_iff (Nat.le_refl _)]
    exact ⟨fun none ⟨k, first⟩ => absurd first.lt (Nat.not_lt.2 (none k first)),
      fun none k first => absurd ⟨k, first⟩ none⟩
  · have succeeds : Reaches (monitor.site platform) (i + 1) := (reaches_iff lt).2 none
    obtain ⟨vcpu, cpu, site, ok⟩ := succeeds i (Nat.lt_succ_self i)
    refine ⟨vcpu, cpu, site, ?_, ok, (Vcpu.runsFrom_of_virtualize ok).stage⟩
    rw [site_of_reached ready fun i' lt' => succeeds i' (Nat.lt_succ_of_lt lt'), site]
    rfl
  · rw [site_of_reached ready first.before, site]
    rfl
  · have here := ready k
    have fails := first.fails
    rw [site] at here fails
    rw [Site.succeeds_iff] at fails
    obtain ⟨ok, -⟩ | ⟨-, off, ended, restored⟩ | ⟨-, launched, record, state⟩ :=
      Site.virtualized_cases (here.stage vcpu rfl) (here.current cpu rfl)
    · exact absurd ok fails
    · exact ⟨fun _ => ⟨ended, restored⟩, fun launched => nomatch off.symm.trans launched⟩
    · exact ⟨fun off => (nomatch off.symm.trans launched), fun _ => ⟨record, state⟩⟩
  · intro k first missing
    rw [site_of_reached ready first.before]
    exact Site.virtualized_of_missing missing
  · exact fun k i first lt =>
      site_of_unreached ready fun reaches => first.fails (reaches k lt)
  · intro i beyond
    have vacant : (monitor.site platform i).vcpu = none := List.getElem?_eq_none beyond
    by_cases reaches : Reaches (monitor.site platform) i
    · rw [site_of_reached ready reaches]
      exact Site.virtualized_of_vacant vacant
    · exact site_of_unreached ready reaches

/-- Of three processors after reset the launch on the second one is made to fail: the first one runs
its guest, and the third one stays as it is. -/
theorem virtualize_upTo_firstFailure_second :
    let monitor : Monitor := ⟨[.fresh 0 0x1c000 0x10000 .empty {},
      .fresh 1 0x3c000 0x30000 .empty {}, .fresh 2 0x5c000 0x50000 .empty {}]⟩
    let platform : Platform SimulatedProcessor :=
      { processors := [.reset, { SimulatedProcessor.reset with launchFailure := some 7 }, .reset]
        journal := .empty none }
    let ended := monitor.virtualize hardware platform
    monitor.Ready platform ∧ FirstFailure monitor platform 1 ∧ ended.1 ≠ true ∧
      (∃ vcpu cpu, ended.2.1.site ended.2.2 0 = ⟨some vcpu, some cpu⟩ ∧ vcpu.stage = .launched) ∧
      ended.2.1.site ended.2.2 2
        = ⟨some (.fresh 2 0x5c000 0x50000 .empty {}), some .reset⟩ := by
  intro monitor platform ended
  have ready : monitor.Ready platform := by
    intro i
    match i with
    | 0 | 1 | 2 =>
        refine ⟨?_, ?_, ?_⟩ <;> rintro _ ⟨⟩
        · rfl
        · exact .inl rfl
        · exact nofun
    | _ + 3 => refine ⟨?_, ?_, ?_⟩ <;> rintro _ ⟨⟩
  have succeeds : (hardware.execute (.fresh 0 0x1c000 0x10000 .empty {}) .reset
      Vcpu.virtualize).outcome = .ok () := Vcpu.outcome_eq_verdict.trans rfl
  have fails : (hardware.execute (.fresh 1 0x3c000 0x30000 .empty {})
      { SimulatedProcessor.reset with launchFailure := some 7 } Vcpu.virtualize).outcome
      = .error (.launchFailed (.ofCode 7)) := Vcpu.outcome_eq_verdict.trans rfl
  have first : FirstFailure monitor platform 1 := by
    refine ⟨by decide, fun ok => ?_, fun i lt => ?_⟩
    · exact nomatch fails.symm.trans (Site.succeeds_iff.1 ok)
    · obtain rfl : i = 0 := by omega
      exact Site.succeeds_iff.2 succeeds
  have stops := virtualize_upTo_firstFailure monitor platform ready
  obtain ⟨vcpu, cpu, -, here, -, launched⟩ := stops.before 0 (by decide) fun k first' =>
    Nat.pos_of_ne_zero fun zero => (zero ▸ first').fails (first.before 0 Nat.one_pos)
  exact ⟨ready, first, fun success => stops.success_iff.1 success ⟨1, first⟩,
    ⟨_, _, here, launched⟩, stops.behind 1 2 first (by decide)⟩

end Monitor

/-- A monitor that was just built is ready, whatever state its platform is in by then. -/
theorem Configuration.ready_of_build {configuration : Configuration} {monitor : Monitor}
    {platform platform' : Platform SimulatedProcessor}
    (built : (configuration.build hardware platform).1 = some monitor)
    (current : ∀ cpu ∈ platform'.processors, cpu.currentVmcs.isSome → cpu.vmxOperation = true) :
    monitor.Ready platform' := by
  cases found : platform.processors[0]? with
  | none =>
      rw [build, Platform.runOn_of_none _ found] at built
      cases built
  | some cpu =>
      obtain ⟨journal, ended⟩ := configuration.build_eq found
      rw [ended] at built
      split at built
      · obtain rfl := Option.some.inj built
        have indices := configuration.index_toNat_createVcpus { platform with journal }
          (Nat.le_of_lt platform.count.isLt)
        intro i
        refine ⟨fun vcpu mem => ?_, fun vcpu mem => ?_, fun cpu mem => ?_⟩
        · have here : (List.range platform.count.toNat)[i]? = some vcpu.index.toNat := by
            rw [← indices, List.getElem?_map]
            exact congrArg (Option.map (·.index.toNat)) mem
          obtain ⟨inside, same⟩ := List.getElem?_eq_some_iff.1 here
          exact same.symm.trans (List.getElem_range inside)
        · exact .inl (mem_createVcpus _ _ _ (List.mem_of_getElem? mem)).1
        · exact current cpu (List.mem_of_getElem? mem)
      · cases built

end VtxMonitor
