import VtxMonitor.Proofs.Processor.VmcsFrame
import VtxMonitor.Proofs.Segment.Decoding
import VtxMonitor.Proofs.Vmcs.HostArea

/-!
# Proofs/Vmcs/GuestArea — the guest-state area is a copy of the processor

Writing the guest-state area stores `Hardware.guestValues`, a list that is read off the processor
(`writeGuestFields_leads`).  No field comes twice in its first part, nor in its last one, but the
last one stores the bases of FS and GS again, since descriptors only hold 32 bits of them.  So each
field keeps what the last part stores in it, or else what the first part does: **the area is a copy
of the processor** (`writeGuestFields_snapshot`).
-/

namespace VtxMonitor

open Vmcs (Field GuestSegment)
open Operation (Fills)

variable {σ : Type} {hw : Hardware σ} {frame : VmcsFrame hw} {words : Field → Word} {s : σ}

/-! ## Looking at the processor -/

namespace Segment

variable {selector limit : BitVec 16}

/-- Whatever a look-up finds, it echoes the selector. -/
theorem selector_run_lookup (reader : BitVec 16 → Program Word) :
    (hw.run (lookup selector limit reader) s).1.selector = selector := by
  have decoding : ∀ s, (hw.run (ofTable selector limit reader) s).1.selector = selector := by
    intro s
    rw [ofTable_eq]
    split
    · rfl
    · rw [Hardware.run_bind]
      split
      · rw [Hardware.run_bind]
        rfl
      · rfl
  rw [lookup]
  split
  · rw [Hardware.run_bind]
    exact decoding _
  · exact decoding s

/-- A look-up in a table of the processor only looks at that. -/
theorem ofGdt_inspects (gdtr : TableRegister) (selector : BitVec 16) :
    (ofGdt gdtr selector).Only Operation.Inspects :=
  lookup_only (fun _ => trivial) fun _ _ => ⟨trivial, fun _ => trivial⟩

end Segment

/-! ## What is stored -/

namespace Hardware

variable (hw : Hardware σ) (s : σ)

/-- The selectors that are loaded. -/
def selectors : SegmentSelectors := (hw.answer .selectors s).1

/-- The segment that a selector names in the GDT. -/
def gdtSegment (selector : BitVec 16) : Segment :=
  (hw.run (Segment.ofGdt (hw.answer .gdtr s).1 selector) s).1

/-- The segment that a segment register is loaded with. -/
def guestSegment (register : GuestSegment) : Segment :=
  hw.gdtSegment s (register.selector (hw.selectors s))

/-- What segment registers are stored as. -/
def segmentValues (registers : List GuestSegment) : List (Field × Word) :=
  registers.flatMap fun register => register.fields (hw.guestSegment s register)

/-- What is stored before the segment registers. RSP and RIP are filled in by the launch. -/
def guestStatus : List (Field × Word) :=
  [(.guestCr0, (hw.answer (.readCr .cr0) s).1), (.guestCr3, (hw.answer (.readCr .cr3) s).1),
    (.guestCr4, (hw.answer (.readCr .cr4) s).1), (.guestDr7, (hw.answer .readDr7 s).1),
    (.guestRsp, 0), (.guestRip, 0), (.guestRflags, (hw.answer .readRflags s).1)]

/-- What is stored of the registers of the guest. -/
def guestRegisters : List (Field × Word) :=
  hw.guestStatus s ++ hw.segmentValues s GuestSegment.order

/-- What is stored behind the segment registers. -/
def guestTables : List (Field × Word) :=
  let gdtr := (hw.answer .gdtr s).1
  let idtr := (hw.answer .idtr s).1
  [(.guestFsBase, hw.msr s Msr.fsBase), (.guestGsBase, hw.msr s Msr.gsBase),
    (.guestGdtrBase, gdtr.base), (.guestGdtrLimit, gdtr.limit.setWidth 64),
    (.guestIdtrBase, idtr.base), (.guestIdtrLimit, idtr.limit.setWidth 64),
    (.guestDebugCtl, hw.msr s Msr.debugCtl), (.guestSysenterCs, hw.msr s Msr.sysenterCs),
    (.guestSysenterEsp, hw.msr s Msr.sysenterEsp), (.guestSysenterEip, hw.msr s Msr.sysenterEip),
    (.guestActivity, 0), (.guestInterruptibility, 0), (.guestPendingDebug, 0),
    (.guestLinkPointer, Vmcs.noLinkPointer)]

/-- Everything that is stored in the guest-state area, in order. -/
def guestValues : List (Field × Word) := hw.guestRegisters s ++ hw.guestTables s

end Hardware

namespace Vmcs

/-! ## Where it is stored -/

/-- The fields that are stored before the segment registers. -/
def statusFields : List Field :=
  [.guestCr0, .guestCr3, .guestCr4, .guestDr7, .guestRsp, .guestRip, .guestRflags]

/-- The fields of the registers of the guest. -/
def registerFields : List Field :=
  statusFields ++ GuestSegment.order.flatMap fun register =>
    [register.selectorField, register.baseField, register.limitField, register.rightsField]

/-- The fields that are stored behind the segment registers. -/
def tableFields : List Field :=
  [.guestFsBase, .guestGsBase, .guestGdtrBase, .guestGdtrLimit, .guestIdtrBase, .guestIdtrLimit,
    .guestDebugCtl, .guestSysenterCs, .guestSysenterEsp, .guestSysenterEip, .guestActivity,
    .guestInterruptibility, .guestPendingDebug, .guestLinkPointer]

/-- The fields of the guest-state area that are written. -/
def guestFields : List Field := registerFields ++ tableFields

theorem registerFields_nodup : registerFields.Nodup := by decide +kernel

theorem tableFields_nodup : tableFields.Nodup := by decide +kernel

theorem mem_order (register : GuestSegment) : register ∈ GuestSegment.order := by
  cases register <;> decide

/-- What is stored before the segment registers is not stored again. -/
theorem notMem_of_mem_statusFields {field : Field} (mem : field ∈ statusFields) :
    field ∉ tableFields := by
  have apart : (statusFields.all fun field => field ∉ tableFields) = true := by decide +kernel
  exact of_decide_eq_true (List.all_eq_true.1 apart field mem)

/-- Of what is stored for a segment register, only the bases of FS and GS are stored again. -/
theorem notMem_tableFields (register : GuestSegment) :
    register.selectorField ∉ tableFields ∧ register.limitField ∉ tableFields ∧
      register.rightsField ∉ tableFields ∧
      (register ≠ .fs → register ≠ .gs → register.baseField ∉ tableFields) := by
  cases register <;> decide

/-- **What is stored last counts.** -/
theorem updateAll_guestTables {field : Field} {value : Word}
    (mem : (field, value) ∈ hw.guestTables s) :
    updateAll words (hw.guestValues s) field = value := by
  have once : ((hw.guestTables s).map Prod.fst).Nodup := tableFields_nodup
  rw [Hardware.guestValues, updateAll_append]
  exact updateAll_of_mem _ once mem

/-- **What is stored of a register counts if it is not stored again.** -/
theorem updateAll_guestRegisters {field : Field} {value : Word}
    (mem : (field, value) ∈ hw.guestRegisters s) (last : field ∉ tableFields) :
    updateAll words (hw.guestValues s) field = value := by
  have once : ((hw.guestRegisters s).map Prod.fst).Nodup := registerFields_nodup
  rw [Hardware.guestValues, updateAll_append]
  exact (updateAll_of_notMem _ last).trans (updateAll_of_mem _ once mem)

theorem updateAll_guestValues_of_notMem {field : Field} (other : field ∉ guestFields) :
    updateAll words (hw.guestValues s) field = words field := by
  refine updateAll_of_notMem _ fun mem => other ?_
  rwa [Hardware.guestValues, List.map_append] at mem

/-! ## Writing the area -/

theorem writeGuestSegments_leads (holds : frame.Holds s) (registers : List GuestSegment) :
    frame.Leads (frame.rest s) words
      (writeGuestSegments (hw.answer .gdtr s).1 (hw.selectors s) registers).run (.ok ())
      (updateAll words (hw.segmentValues s registers)) := by
  induction registers generalizing words with
  | nil => exact .pure (Except.ok ())
  | cons register registers ih =>
      have found : frame.Leads (frame.rest s) words (Segment.ofGdt (hw.answer .gdtr s).1
          (register.selector (hw.selectors s))) (hw.guestSegment s register) words :=
        VmcsHolder.Leads.inspecting (Segment.ofGdt_inspects _ _) holds
      refine found.procedure_program.procedure_bind ?_
      refine (VmcsHolder.Leads.report _).procedure_program.procedure_bind ?_
      rw [Hardware.segmentValues, List.flatMap_cons, updateAll_append]
      exact (VmcsHolder.Leads.writeAll _).procedure_bind ih

/-- **Writing the guest-state area stores what is read off the processor.** -/
theorem writeGuestFields_leads (holds : frame.Holds s) :
    frame.Leads (frame.rest s) words writeGuestFields.run (.ok ())
      (updateAll words (hw.guestValues s)) := by
  have cr (register : ControlRegister) :
      (hw.answer (.readCr register) s).1 = (frame.pinned (frame.rest s)).cr register :=
    frame.readCr s register holds
  rw [Hardware.guestValues, Hardware.guestRegisters, Hardware.guestStatus, updateAll_append,
    updateAll_append, cr, cr, cr]
  refine ((frame.pinned _).copyControlRegisters_leads _ _ _).procedure_bind ?_
  refine .ask_bind holds trivial <| (VmcsHolder.Leads.writeAll _).procedure_bind ?_
  refine .ask_bind holds trivial <| (VmcsHolder.Leads.write _ _).procedure_bind ?_
  refine .ask_bind holds trivial <| .ask_bind holds trivial <| .ask_bind holds trivial ?_
  refine (writeGuestSegments_leads holds _).procedure_bind ?_
  refine .ask_bind holds trivial <| .ask_bind holds trivial ?_
  refine (VmcsHolder.Leads.writeAll _).procedure_bind <| .ask_bind holds trivial ?_
  refine .ask_bind holds trivial <| .ask_bind holds trivial <| .ask_bind holds trivial ?_
  exact VmcsHolder.Leads.writeAll _

/-! ### Nothing else is written -/

/-- The fields of the guest-state area behind the control registers. -/
def guestContextFields : List Field := guestFields.drop 3

theorem guestContextFields_eq : guestContextFields
    = [.guestDr7, .guestRsp, .guestRip, .guestRflags] ++ (GuestSegment.order.flatMap
        fun register => [register.selectorField, register.baseField, register.limitField,
          register.rightsField]) ++ tableFields := rfl

/-- What is stored for a segment register goes to fields behind the control registers. -/
theorem mem_guestContextFields_of_mem_fields {register : GuestSegment} {segment : Segment}
    {entry : Field × Word} (mem : entry ∈ register.fields segment) :
    entry.1 ∈ guestContextFields := by
  rw [guestContextFields_eq]
  refine List.mem_append_left _ (List.mem_append_right _ (List.mem_flatMap.2 ?_))
  exact ⟨register, mem_order register, List.mem_map_of_mem mem⟩

theorem writeGuestSegments_fills (gdtr : TableRegister) (selectors : SegmentSelectors)
    (registers : List GuestSegment) : (writeGuestSegments gdtr selectors registers).run.Only
      (Fills guestContextFields) := by
  induction registers with
  | nil => trivial
  | cons register registers ih =>
      have found := (Segment.ofGdt_inspects gdtr (register.selector selectors)).mono
        fun op inspects => inspects.fills guestContextFields
      refine found.procedure_program.procedure_bind fun segment => ask_fills trivial fun _ => ?_
      have stored : (writeAll (register.fields segment)).run.Only (Fills guestContextFields) :=
        writeAll_fills fun _ => mem_guestContextFields_of_mem_fields
      exact stored.procedure_bind fun _ => ih

theorem writeGuestContext_fills : writeGuestContext.run.Only (Fills guestContextFields) := by
  refine ask_fills trivial fun dr7 => ?_
  refine (writeAll_fills ?_).procedure_bind fun _ => ask_fills trivial fun rflags => ?_
  · simp [guestContextFields_eq]
  refine (write_fills ?_ rflags).procedure_bind fun _ => ask_fills trivial fun gdtr => ?_
  · simp [guestContextFields_eq]
  refine ask_fills trivial fun idtr => ask_fills trivial fun selectors => ?_
  refine (writeGuestSegments_fills _ _ _).procedure_bind fun _ => ?_
  refine ask_fills trivial fun fsBase => ask_fills trivial fun gsBase => ?_
  refine (writeAll_fills ?_).procedure_bind fun _ => ask_fills trivial fun debugCtl => ?_
  · simp [guestContextFields_eq, tableFields]
  refine ask_fills trivial fun cs => ask_fills trivial fun esp => ?_
  exact ask_fills trivial fun eip =>
    writeAll_fills (by simp [guestContextFields_eq, tableFields])

/-- **No field besides the guest fields is written**, whatever the processor answers. -/
theorem writeGuestFields_fills : writeGuestFields.run.Only (Fills guestFields) := by
  have registers : (copyControlRegisters .guestCr0 .guestCr3 .guestCr4).run.Only
      (Fills guestFields) := copyControlRegisters_fills (List.take_subset 3 guestFields)
  refine registers.procedure_bind fun _ => writeGuestContext_fills.mono fun op fills => ?_
  exact fills.mono (List.drop_subset 3 guestFields)

/-- What lists all fields that are written, lists what is not. -/
theorem notMem_guestFields {named : List Field} {field : Field} (other : field ∉ named)
    (complete : (guestFields.all fun field => field ∈ named) = true) : field ∉ guestFields :=
  fun mem => other (of_decide_eq_true (List.all_eq_true.1 complete field mem))

theorem area_of_mem_guestFields {field : Field} (mem : field ∈ guestFields) :
    field.area = .guest := by
  have guest : (guestFields.all fun field => field.area = .guest) = true := by decide +kernel
  exact of_decide_eq_true (List.all_eq_true.1 guest field mem)

/-- Fields of the other areas are spared. -/
theorem updateAll_guestValues_of_area {field : Field} (other : field.area ≠ .guest) :
    updateAll words (hw.guestValues s) field = words field :=
  updateAll_guestValues_of_notMem fun mem => other (area_of_mem_guestFields mem)

end Vmcs

/-! ## The result -/

/-- Three fields describe the segment of a selector: they hold the selector, and limit and access
rights of the segment that it names in the GDT. -/
structure Hardware.StoresSegment (hw : Hardware σ) (s : σ) (words : Field → Word)
    (loaded : BitVec 16) (selectorField limitField rightsField : Field) : Prop where
  selector : words selectorField = loaded.setWidth 64
  limit : words limitField = (hw.gdtSegment s loaded).limit.setWidth 64
  rights : words rightsField = (hw.gdtSegment s loaded).accessRights.bits.setWidth 64

/-- The words of the guest-state area, by the encodings of the processor manual, are a copy of what
is found in the processor. -/
structure Hardware.GuestSnapshot (hw : Hardware σ) (s : σ) (words : Field → Word) : Prop where
  cr0 : words 0x6800 = (hw.answer (.readCr .cr0) s).1
  cr3 : words 0x6802 = (hw.answer (.readCr .cr3) s).1
  cr4 : words 0x6804 = (hw.answer (.readCr .cr4) s).1
  dr7 : words 0x681a = (hw.answer .readDr7 s).1
  rflags : words 0x6820 = (hw.answer .readRflags s).1
  gdtr : words 0x6816 = (hw.answer .gdtr s).1.base ∧
    words 0x4810 = (hw.answer .gdtr s).1.limit.setWidth 64
  idtr : words 0x6818 = (hw.answer .idtr s).1.base ∧
    words 0x4812 = (hw.answer .idtr s).1.limit.setWidth 64
  debugCtl : words 0x2802 = hw.msr s 0x1d9
  sysenter : words 0x482a = hw.msr s 0x174 ∧ words 0x6824 = hw.msr s 0x175 ∧
    words 0x6826 = hw.msr s 0x176
  es : hw.StoresSegment s words (hw.selectors s).es 0x800 0x4800 0x4814
  cs : hw.StoresSegment s words (hw.selectors s).cs 0x802 0x4802 0x4816
  ss : hw.StoresSegment s words (hw.selectors s).ss 0x804 0x4804 0x4818
  ds : hw.StoresSegment s words (hw.selectors s).ds 0x806 0x4806 0x481a
  fs : hw.StoresSegment s words (hw.selectors s).fs 0x808 0x4808 0x481c
  gs : hw.StoresSegment s words (hw.selectors s).gs 0x80a 0x480a 0x481e
  ldtr : hw.StoresSegment s words (hw.selectors s).ldtr 0x80c 0x480c 0x4820
  tr : hw.StoresSegment s words (hw.selectors s).tr 0x80e 0x480e 0x4822
  esBase : words 0x6806 = (hw.gdtSegment s (hw.selectors s).es).base
  csBase : words 0x6808 = (hw.gdtSegment s (hw.selectors s).cs).base
  ssBase : words 0x680a = (hw.gdtSegment s (hw.selectors s).ss).base
  dsBase : words 0x680c = (hw.gdtSegment s (hw.selectors s).ds).base
  /-- Whatever FS and GS are loaded with. -/
  fsBase : words 0x680e = hw.msr s 0xc0000100
  gsBase : words 0x6810 = hw.msr s 0xc0000101
  ldtrBase : words 0x6812 = (hw.gdtSegment s (hw.selectors s).ldtr).base
  trBase : words 0x6814 = (hw.gdtSegment s (hw.selectors s).tr).base
  /-- RSP, RIP, activity state, interruptibility and pending debug exceptions. -/
  zero : words 0x681c = 0 ∧ words 0x681e = 0 ∧ words 0x4826 = 0 ∧ words 0x4824 = 0 ∧
    words 0x6822 = 0
  link : words 0x2800 = BitVec.allOnes 64

/-- **What is stored is a copy of what is found**, whatever the fields were before. -/
theorem Vmcs.updateAll_snapshot (words : Field → Word) :
    hw.GuestSnapshot s (updateAll words (hw.guestValues s)) := by
  let stored := updateAll words (hw.guestValues s)
  have status : ∀ entry ∈ hw.guestStatus s, stored entry.1 = entry.2 := fun entry mem => by
    have once : entry.1 ∉ tableFields := notMem_of_mem_statusFields (List.mem_map_of_mem mem)
    exact updateAll_guestRegisters (List.mem_append_left _ mem) once
  have described : ∀ register : GuestSegment, ∀ entry ∈ register.fields (hw.guestSegment s register),
      entry.1 ∉ tableFields → stored entry.1 = entry.2 := fun register entry mem =>
    updateAll_guestRegisters <| List.mem_append_right _ <|
      List.mem_flatMap.2 ⟨register, mem_order register, mem⟩
  have tables : ∀ entry ∈ hw.guestTables s, stored entry.1 = entry.2 := fun entry =>
    updateAll_guestTables
  simp only [Hardware.guestStatus, List.forall_mem_cons] at status
  simp only [GuestSegment.fields, List.forall_mem_cons] at described
  simp only [Hardware.guestTables, List.forall_mem_cons] at tables
  obtain ⟨cr0, cr3, cr4, dr7, rsp, rip, rflags, -⟩ := status
  obtain ⟨fsBase, gsBase, gdtrBase, gdtrLimit, idtrBase, idtrLimit, debugCtl, cs, esp, eip,
    activity, interruptibility, debug, link, -⟩ := tables
  have segment (register : GuestSegment) : hw.StoresSegment s stored
      (register.selector (hw.selectors s)) register.selectorField register.limitField
      register.rightsField := by
    have echoed : (hw.guestSegment s register).selector = register.selector (hw.selectors s) :=
      Segment.selector_run_lookup _
    have once := notMem_tableFields register
    obtain ⟨selector, -, limit, rights, -⟩ := described register
    exact ⟨(selector once.1).trans (congrArg _ echoed), limit once.2.1, rights once.2.2.1⟩
  have base (register : GuestSegment) (fs : register ≠ .fs) (gs : register ≠ .gs) :
      stored register.baseField = (hw.guestSegment s register).base :=
    (described register).2.1 ((notMem_tableFields register).2.2.2 fs gs)
  exact {
    cr0, cr3, cr4, dr7, rflags, debugCtl, fsBase, gsBase, link
    gdtr := ⟨gdtrBase, gdtrLimit⟩
    idtr := ⟨idtrBase, idtrLimit⟩
    sysenter := ⟨cs, esp, eip⟩
    es := segment .es
    cs := segment .cs
    ss := segment .ss
    ds := segment .ds
    fs := segment .fs
    gs := segment .gs
    ldtr := segment .ldtr
    tr := segment .tr
    esBase := base .es nofun nofun
    csBase := base .cs nofun nofun
    ssBase := base .ss nofun nofun
    dsBase := base .ds nofun nofun
    ldtrBase := base .ldtr nofun nofun
    trBase := base .tr nofun nofun
    zero := ⟨rsp, rip, activity, interruptibility, debug⟩ }

/-- **The guest-state area is a copy of the processor**, on every processor with a current VMCS, in
every state and whatever the fields were before: writing it succeeds; the area holds what is found
in the processor, with the bases of FS and GS from their MSRs in any case; no other field changes,
nor is any written; and the rest of the processor stays as it is, so that every register, MSR and
table reads as before. -/
theorem writeGuestFields_snapshot (frame : VmcsFrame hw) (holds : frame.Holds s) :
    let ended := hw.run Vmcs.writeGuestFields.run s
    ended.1 = .ok () ∧
    hw.GuestSnapshot s (frame.word ended.2) ∧
    (∀ field ∉ ([0x800, 0x802, 0x804, 0x806, 0x808, 0x80a, 0x80c, 0x80e, 0x2800, 0x2802, 0x4800,
        0x4802, 0x4804, 0x4806, 0x4808, 0x480a, 0x480c, 0x480e, 0x4810, 0x4812, 0x4814, 0x4816,
        0x4818, 0x481a, 0x481c, 0x481e, 0x4820, 0x4822, 0x4824, 0x4826, 0x482a, 0x6800, 0x6802,
        0x6804, 0x6806, 0x6808, 0x680a, 0x680c, 0x680e, 0x6810, 0x6812, 0x6814, 0x6816, 0x6818,
        0x681a, 0x681c, 0x681e, 0x6820, 0x6822, 0x6824, 0x6826] : List Field),
      frame.word ended.2 field = frame.word s field ∧
        ∀ step ∈ hw.steps Vmcs.writeGuestFields.run s, ¬step.1.Writes field) ∧
    frame.rest ended.2 = frame.rest s ∧
    ∀ op : Operation, op.Inspects → (hw.answer op ended.2).1 = (hw.answer op s).1 := by
  intro ended
  obtain ⟨ok, shows⟩ := Vmcs.writeGuestFields_leads holds s (frame.shows_self holds)
  have word : frame.word ended.2 = updateAll (frame.word s) (hw.guestValues s) := shows.word
  refine ⟨ok, ?_, fun field other => ?_, shows.rest, fun op inspects => ?_⟩
  · rw [word]
    exact Vmcs.updateAll_snapshot _
  · have unwritten := Vmcs.notMem_guestFields other (by decide +kernel)
    refine ⟨?_, fun step mem writes => unwritten ?_⟩
    · rw [word]
      exact Vmcs.updateAll_guestValues_of_notMem unwritten
    · exact (Vmcs.writeGuestFields_fills.of_mem_steps mem).mem_of_writes writes
  · rw [frame.inspected op _ inspects shows.current, frame.inspected op s inspects holds,
      shows.rest]

/-- The simulated processor at reset, where FS is unusable but has a base, and a machine with a
table of its own. -/
theorem writeGuestFields_snapshot_reset :
    let cpu := SimulatedProcessor.reset.enterVmxWithCurrentVmcs
    let machine : Machine :=
      { gdtr := ⟨0x1000, 0x17⟩, selectors := { cs := 0x08, fs := 0x10 }
        memory := Memory.ofWords 0x1008 [0x00af9b000000ffff, 0x12cf93345678ffff]
        msrs := fun _ => 0x7f0000000000 }
    let simulated := SimulatedProcessor.hardware.run Vmcs.writeGuestFields.run cpu
    let executed := Machine.hardware.run Vmcs.writeGuestFields.run machine
    let words := cpu.vmcsFrame.word simulated.2
    let words' := machine.vmcsFrame.word executed.2
    (simulated.1 = .ok () ∧ words 0x481c = 0x10000 ∧ words 0x680e = 0x400000 ∧
      simulated.2.events = cpu.events) ∧
    executed.1 = .ok () ∧ words' 0x808 = 0x10 ∧ words' 0x4808 = 0xffffffff ∧
      words' 0x680e = 0x7f0000000000 ∧ words' 0x482c = machine.field 0x482c := by
  intro cpu machine simulated executed words words'
  have current : cpu.vmcsFrame.Holds cpu := ⟨rfl, rfl⟩
  have idle : machine.vmcsFrame.Holds machine := rfl
  obtain ⟨ok, copy, -, kept, -⟩ := writeGuestFields_snapshot cpu.vmcsFrame current
  obtain ⟨ok', copy', others, -⟩ := writeGuestFields_snapshot machine.vmcsFrame idle
  have rest : ∀ t, (cpu.vmcsFrame.rest t).events = t.events := fun _ => rfl
  have events : simulated.2.events = cpu.events :=
    (rest _).symm.trans ((congrArg SimulatedProcessor.events kept).trans (rest _))
  have unusable : (SimulatedProcessor.hardware.gdtSegment cpu
      (SimulatedProcessor.hardware.selectors cpu).fs).accessRights.bits.setWidth 64
        = 0x10000#64 := by decide
  have base : SimulatedProcessor.hardware.msr cpu 0xc0000100 = 0x400000 := by decide
  have limit : (Machine.hardware.gdtSegment machine 0x10).limit.setWidth 64 = 0xffffffff#64 := by
    decide
  exact ⟨⟨ok, copy.fs.rights.trans unusable, copy.fsBase.trans base, events⟩, ok',
    copy'.fs.selector, copy'.fs.limit.trans limit, copy'.fsBase, (others _ (by decide)).1⟩

end VtxMonitor
