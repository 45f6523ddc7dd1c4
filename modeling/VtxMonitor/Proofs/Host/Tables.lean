import VtxMonitor.Host.Tables
import VtxMonitor.Segment.Table

/-!
# Proofs/Host/Tables — what the processor finds in the host's descriptor tables

The processor reads descriptors as words.  A gate is two of them and is found again in them
(`InterruptGate.ofWords_low_high`), **a gate leads to the handler that it was made for**
(`InterruptGate.handler_ofHandler`) and is nothing but that handler and a selector
(`InterruptGate.eq_ofHandler_iff`), the two words of a task descriptor hold the task segment
(`Segment.ofTable_hostTr`), and the host's code segment is a present 64-bit one of ring 0
(`Segment.ofTable_hostCs`).  Together, **host descriptors decode to what they were built from**
(`hostDescriptors_decode`).
-/

namespace VtxMonitor

/-! ## Gates -/

namespace InterruptGate

/-- The first eight bytes of a gate. -/
def low (gate : InterruptGate) : Word :=
  gate.offsetMid ++ gate.attributes ++ gate.ist ++ gate.selector ++ gate.offsetLow

/-- The last eight bytes of a gate. -/
def high (gate : InterruptGate) : Word := gate.reserved ++ gate.offsetHigh

/-- The gate in two words. -/
def ofWords (low high : Word) : InterruptGate where
  offsetLow := low.extractLsb' 0 16
  selector := low.extractLsb' 16 16
  ist := low.extractLsb' 32 8
  attributes := low.extractLsb' 40 8
  offsetMid := low.extractLsb' 48 16
  offsetHigh := high.extractLsb' 0 32
  reserved := high.extractLsb' 32 32

/-- **A gate is found again in its words.** -/
theorem ofWords_low_high (gate : InterruptGate) : ofWords gate.low gate.high = gate := by
  ext1 <;>
    simp (disch := omega) only [ofWords, low, high, BitVec.extractLsb'_append_eq_of_add_le,
      BitVec.extractLsb'_append_eq_of_le, Nat.sub_self, BitVec.extractLsb'_eq_self]

/-- **A gate leads to the handler that it was made for.** -/
theorem handler_ofHandler (handler : Word) (selector : BitVec 16) :
    (ofHandler handler selector).handler = handler := by
  have low : handler.extractLsb' 16 16 ++ handler.extractLsb' 0 16 = handler.extractLsb' 0 32 :=
    BitVec.extractLsb'_append_extractLsb'_eq_extractLsb' rfl
  have whole : handler.extractLsb' 32 32 ++ handler.extractLsb' 0 32 = handler.extractLsb' 0 64 :=
    BitVec.extractLsb'_append_extractLsb'_eq_extractLsb' rfl
  exact (congrArg (handler.extractLsb' 32 32 ++ ·) low).trans
    (whole.trans BitVec.extractLsb'_eq_self)

/-- **The gates that lead to a handler are those with no stack of their own, the attributes of a
present interrupt gate and nothing in the reserved part.** -/
theorem eq_ofHandler_iff (gate : InterruptGate) :
    gate = ofHandler gate.handler gate.selector ↔
      gate.ist = 0 ∧ gate.attributes = presentAttributes ∧ gate.reserved = 0 := by
  constructor
  · intro built
    exact ⟨congrArg ist built, congrArg attributes built, congrArg reserved built⟩
  · rintro ⟨ist, attributes, reserved⟩
    ext1
    case ist => exact ist
    case attributes => exact attributes
    case reserved => exact reserved
    all_goals
      simp (disch := omega) only [ofHandler, handler, BitVec.extractLsb'_append_eq_of_add_le,
        BitVec.extractLsb'_append_eq_of_le, Nat.sub_self, BitVec.extractLsb'_eq_self]

/-- A gate that the processor takes from anywhere into ring 0 with interrupts disabled, and without
another stack. -/
structure Interrupts (gate : InterruptGate) : Prop where
  present : gate.attributes.getLsbD 7 = true
  dpl : gate.attributes.extractLsb 6 5 = 0
  system : gate.attributes.getLsbD 4 = false
  /-- The type of a 64-bit interrupt gate. -/
  type : gate.attributes.extractLsb 3 0 = 0xe
  ist : gate.ist = 0

theorem ofHandler_interrupts (handler : Word) (selector : BitVec 16) :
    (ofHandler handler selector).Interrupts := by
  have attributes : (ofHandler handler selector).attributes = 0x8e := rfl
  constructor <;> first | rw [attributes]; decide | rfl

end InterruptGate

/-! ## The task descriptor -/

section Task

variable (base : Word)

theorem baseLow_taskDescriptorLow :
    (SegmentDescriptor.mk (taskDescriptorLow base)).baseLow = base.extractLsb' 0 24 := by
  simp (disch := omega) only [SegmentDescriptor.baseLow, SegmentDescriptor.baseLowField,
    BitField.get, BitField.number, taskDescriptorLow, BitVec.extractLsb'_append_eq_of_add_le,
    BitVec.extractLsb'_append_eq_of_le, Nat.sub_self, BitVec.extractLsb'_eq_self]

theorem baseHigh_taskDescriptorLow :
    (SegmentDescriptor.mk (taskDescriptorLow base)).baseHigh = base.extractLsb' 24 8 := by
  simp (disch := omega) only [SegmentDescriptor.baseHigh, SegmentDescriptor.baseHighField,
    BitField.get, BitField.number, taskDescriptorLow, BitVec.extractLsb'_append_eq_of_le,
    Nat.sub_self, BitVec.extractLsb'_eq_self]

theorem base_taskDescriptorLow :
    (SegmentDescriptor.mk (taskDescriptorLow base)).base = base.extractLsb' 0 32 := by
  rw [SegmentDescriptor.base, baseHigh_taskDescriptorLow, baseLow_taskDescriptorLow]
  exact BitVec.extractLsb'_append_extractLsb'_eq_extractLsb' rfl

/-- A task descriptor is one of the system descriptors, which are 16 bytes long. -/
theorem descriptorType_taskDescriptorLow :
    (SegmentDescriptor.mk (taskDescriptorLow base)).descriptorType = false := by
  simp only [SegmentDescriptor.descriptorType, SegmentDescriptor.descriptorTypeField,
    BitField.test, BitField.flag, taskDescriptorLow, BitVec.getLsbD_append]
  rfl

/-- The limit of a task descriptor counts the bytes of a task segment. -/
theorem limit_taskDescriptorLow :
    (SegmentDescriptor.mk (taskDescriptorLow base)).limit = taskLimit.setWidth 32 := by
  have bytes : (taskDescriptorLow base).getLsbD 55 = false := by
    simp only [taskDescriptorLow, BitVec.getLsbD_append]
    rfl
  have low : (taskDescriptorLow base).extractLsb' 0 16 = taskLimit.extractLsb' 0 16 := by
    simp (disch := omega) only [taskDescriptorLow, BitVec.extractLsb'_append_eq_of_add_le,
      BitVec.extractLsb'_eq_self]
  have high : (taskDescriptorLow base).extractLsb' 48 4 = taskLimit.extractLsb' 16 4 := by
    simp (disch := omega) only [taskDescriptorLow, BitVec.extractLsb'_append_eq_of_add_le,
      BitVec.extractLsb'_append_eq_of_le, Nat.sub_self, BitVec.extractLsb'_eq_self]
  change (if (taskDescriptorLow base).getLsbD 55
    then ((taskDescriptorLow base).extractLsb' 48 4 ++ (taskDescriptorLow base).extractLsb' 0 16)
      ++ 0xfff#12
    else ((taskDescriptorLow base).extractLsb' 48 4
      ++ (taskDescriptorLow base).extractLsb' 0 16).setWidth 32) = _
  rw [bytes, low, high]
  rfl

/-- The attributes of a task descriptor: an available 64-bit task, ring 0, present, and no flags. -/
theorem accessRights_taskDescriptorLow :
    (SegmentDescriptor.mk (taskDescriptorLow base)).accessRights = ⟨0x89⟩ := by
  have low : (taskDescriptorLow base).extractLsb' 40 8 = 0x89 := by
    simp (disch := omega) only [taskDescriptorLow, BitVec.extractLsb'_append_eq_of_add_le,
      BitVec.extractLsb'_append_eq_of_le, Nat.sub_self, BitVec.extractLsb'_eq_self]
    rfl
  have high : (taskDescriptorLow base).extractLsb' 52 4 = 0 := by
    simp (disch := omega) only [taskDescriptorLow, BitVec.extractLsb'_append_eq_of_add_le,
      BitVec.extractLsb'_append_eq_of_le, Nat.sub_self, BitVec.extractLsb'_eq_self]
    rfl
  rw [SegmentDescriptor.accessRights, low, high]
  rfl

theorem extractLsb'_taskDescriptorHigh :
    (taskDescriptorHigh base).extractLsb' 0 32 = base.extractLsb' 32 32 := by
  rw [taskDescriptorHigh, BitVec.extractLsb'_setWidth_of_le (by omega)]
  exact BitVec.extractLsb'_eq_self

end Task

namespace Segment

variable {entry : BitVec 16 → Word}

/-- The task segment of the host: present, ring 0, an available 64-bit one, counted in bytes. -/
def hostTask (base : Word) : Segment :=
  ⟨hostTrSelector, base, taskLimit.setWidth 32, ⟨0x89⟩⟩

/-- **Behind the host's task selector there is its task segment.** -/
theorem ofTable_hostTr {base : Word} (low : entry 2 = taskDescriptorLow base)
    (high : entry 3 = taskDescriptorHigh base) :
    ofTable (m := Id) hostTrSelector 31 entry = hostTask base := by
  have inside : (isNull hostTrSelector || isBeyond hostTrSelector 31) = false := by decide
  have wide : (!(SegmentDescriptor.mk (entry 2)).descriptorType && fits 31 2 1) = true := by
    rw [low, descriptorType_taskDescriptorLow]
    decide
  have whole : base.extractLsb' 32 32 ++ base.extractLsb' 0 32 = base.extractLsb' 0 64 :=
    BitVec.extractLsb'_append_extractLsb'_eq_extractLsb' rfl
  have index : Segment.index hostTrSelector = 2 := by decide
  rw [ofTable_eq, inside, if_neg Bool.false_ne_true, index]
  change (if _ then _ else _ : Segment) = _
  rw [if_pos wide]
  change describedBy hostTrSelector ⟨entry 2⟩ ((entry 3).extractLsb' 0 32) = _
  rw [describedBy, low, high, extractLsb'_taskDescriptorHigh, base_taskDescriptorLow, whole,
    BitVec.extractLsb'_eq_self, limit_taskDescriptorLow, accessRights_taskDescriptorLow, hostTask]

/-- **The base of the task segment is found again behind the host's task selector.** -/
theorem base_ofTable_hostTr {base : Word} (low : entry 2 = taskDescriptorLow base)
    (high : entry 3 = taskDescriptorHigh base) :
    (ofTable (m := Id) hostTrSelector 31 entry).base = base :=
  congrArg Segment.base (ofTable_hostTr low high)

/-- The code segment that the host runs in: flat, present, ring 0, executable, 64-bit. -/
def hostCode : Segment := ⟨hostCsSelector, 0, 0xffffffff, ⟨0xa09b⟩⟩

/-- **Behind the host's code selector there is its code segment.** -/
theorem ofTable_hostCs (code : entry 1 = code64Descriptor) :
    ofTable (m := Id) hostCsSelector 31 entry = hostCode := by
  have inside : (isNull hostCsSelector || isBeyond hostCsSelector 31) = false := by decide
  have index : Segment.index hostCsSelector = 1 := by decide
  have short : ¬(!(SegmentDescriptor.mk (entry 1)).descriptorType && fits 31 1 1) = true := by
    rw [code]
    decide
  rw [ofTable_eq, inside, if_neg Bool.false_ne_true, index]
  change (if _ then _ else _ : Segment) = _
  rw [if_neg short]
  change describedBy hostCsSelector ⟨entry 1⟩ 0 = hostCode
  rw [code]
  decide

/-- A usable flat 64-bit code segment of ring 0. -/
structure IsFlatCode (segment : Segment) : Prop where
  base : segment.base = 0
  limit : segment.limit = 0xffffffff
  usable : segment.accessRights.unusable = false
  present : segment.accessRights.present = true
  dpl : segment.accessRights.dpl = 0
  descriptorType : segment.accessRights.descriptorType = true
  /-- Bit 3 of the type tells code from data. -/
  code : segment.accessRights.segmentType.getLsbD 3 = true
  longMode : segment.accessRights.longMode = true
  defaultBig : segment.accessRights.defaultBig = false

theorem hostCode_isFlatCode : hostCode.IsFlatCode := by
  constructor <;> decide

/-- A usable task segment of ring 0 at an address, of 104 bytes. -/
structure IsTask (segment : Segment) (base : Word) : Prop where
  base : segment.base = base
  limit : segment.limit = 103
  usable : segment.accessRights.unusable = false
  present : segment.accessRights.present = true
  dpl : segment.accessRights.dpl = 0
  descriptorType : segment.accessRights.descriptorType = false
  /-- The type of an available 64-bit task. -/
  segmentType : segment.accessRights.segmentType = 9
  granularity : segment.accessRights.granularity = false

theorem hostTask_isTask (base : Word) : (hostTask base).IsTask base := by
  have rights : (hostTask base).accessRights = ⟨0x89⟩ := rfl
  constructor
  case base => rfl
  case limit => rfl
  all_goals
    rw [rights]
    decide

end Segment

/-! ## The result -/

/-- **Host descriptors decode to what they were built from.**  Whatever a GDT held, once it is
prepared for a task segment at any address its first entry is null, selector 0x08 names a flat
64-bit code segment and selector 0x10 the task segment at exactly that address.  A gate leads to the
handler that it was made for, and every gate without a stack of its own, with the attributes of a
present interrupt gate and nothing in its reserved part is the one made for its handler. -/
theorem hostDescriptors_decode :
    (∀ (earlier : HostGdt) (tssBase : Word),
      let gdt := earlier.prepare tssBase
      let segment := fun selector => Segment.ofTable (m := Id) selector 31 gdt.entry
      gdt.entry 0 = 0 ∧ (segment 0x08).IsFlatCode ∧ (segment 0x10).IsTask tssBase ∧
        ∀ other : HostGdt, other.prepare tssBase = gdt) ∧
    (∀ (handler : Word) (selector : BitVec 16),
      let gate := InterruptGate.ofHandler handler selector
      gate.selector = selector ∧ gate.Interrupts ∧ gate.reserved = 0 ∧ gate.handler = handler) ∧
    ∀ gate : InterruptGate, gate = .ofHandler gate.handler gate.selector ↔
      gate.ist = 0 ∧ gate.attributes = 0x8e ∧ gate.reserved = 0 := by
  refine ⟨fun earlier tssBase => ?_, fun handler selector => ?_, fun gate => gate.eq_ofHandler_iff⟩
  · intro gdt segment
    have prepared : gdt = .forTask tssBase := earlier.prepare_eq tssBase
    have code : segment 0x08 = Segment.hostCode := Segment.ofTable_hostCs (by rw [prepared]; rfl)
    have task : segment 0x10 = Segment.hostTask tssBase :=
      Segment.ofTable_hostTr (by rw [prepared]; rfl) (by rw [prepared]; rfl)
    refine ⟨by rw [prepared]; rfl, ?_, ?_, fun other => ?_⟩
    · rw [code]
      exact Segment.hostCode_isFlatCode
    · rw [task]
      exact Segment.hostTask_isTask tssBase
    · exact (other.prepare_eq tssBase).trans prepared.symm
  · exact ⟨rfl, InterruptGate.ofHandler_interrupts handler selector, rfl,
      InterruptGate.handler_ofHandler handler selector⟩

end VtxMonitor
