import VtxMonitor.Word.Field

/-!
# Segment/Descriptor — segment descriptors and the access rights derived from them

A descriptor is an entry of 8 bytes in a descriptor table. The VMCS wants its attribute bits in
another layout, the access rights: bits 47:40 of the descriptor become bits 7:0 and bits 55:52
become bits 15:12.
-/

namespace VtxMonitor

open Text (Dump)

/-- An entry of a descriptor table. -/
structure SegmentDescriptor where
  bits : Word
deriving DecidableEq

/-- The attributes of a segment in the layout of the VMCS. -/
structure AccessRights where
  bits : BitVec 32
deriving DecidableEq

namespace SegmentDescriptor

def limitLowField : BitField := .number "limit_low" 0 16
def baseLowField : BitField := .number "base_low" 16 24
def segmentTypeField : BitField := .number "segment_type" 40 4
def descriptorTypeField : BitField := .flag "descriptor_type" 44
def dplField : BitField := .number "dpl" 45 2
def presentField : BitField := .flag "present" 47
def limitHighField : BitField := .number "limit_high" 48 4
def avlField : BitField := .flag "avl" 52
def longModeField : BitField := .flag "long_mode" 53
def defaultBigField : BitField := .flag "default_big" 54
def granularityField : BitField := .flag "granularity" 55
def baseHighField : BitField := .number "base_high" 56 8

/-- The fields of a descriptor. -/
def layout : List BitField :=
  [limitLowField, baseLowField, segmentTypeField, descriptorTypeField, dplField, presentField,
    limitHighField, avlField, longModeField, defaultBigField, granularityField, baseHighField]

def limitLow (d : SegmentDescriptor) : BitVec 16 := limitLowField.get d.bits
def baseLow (d : SegmentDescriptor) : BitVec 24 := baseLowField.get d.bits
def segmentType (d : SegmentDescriptor) : BitVec 4 := segmentTypeField.get d.bits
/-- Set for code and data segments, clear for system descriptors. -/
def descriptorType (d : SegmentDescriptor) : Bool := descriptorTypeField.test d.bits
def dpl (d : SegmentDescriptor) : BitVec 2 := dplField.get d.bits
def present (d : SegmentDescriptor) : Bool := presentField.test d.bits
def limitHigh (d : SegmentDescriptor) : BitVec 4 := limitHighField.get d.bits
def avl (d : SegmentDescriptor) : Bool := avlField.test d.bits
def longMode (d : SegmentDescriptor) : Bool := longModeField.test d.bits
def defaultBig (d : SegmentDescriptor) : Bool := defaultBigField.test d.bits
/-- Set when the limit counts pages of 4 KiB. -/
def granularity (d : SegmentDescriptor) : Bool := granularityField.test d.bits
def baseHigh (d : SegmentDescriptor) : BitVec 8 := baseHighField.get d.bits

/-- The base address, of which a descriptor of 8 bytes holds 32 bits. -/
def base (d : SegmentDescriptor) : BitVec 32 := d.baseHigh ++ d.baseLow

/-- The limit in bytes. -/
def limit (d : SegmentDescriptor) : BitVec 32 :=
  let units : BitVec 20 := d.limitHigh ++ d.limitLow
  if d.granularity then units ++ 0xfff#12 else units.setWidth 32

/-- The attribute bits in the layout of the VMCS. -/
def accessRights (d : SegmentDescriptor) : AccessRights :=
  let low : BitVec 8 := d.bits.extractLsb' 40 8
  let high : BitVec 4 := d.bits.extractLsb' 52 4
  ⟨(high ++ (0#4 ++ low)).setWidth 32⟩

/-- The dump of a descriptor. -/
def dump (d : SegmentDescriptor) : Dump := dumpLayout "SegmentDescriptor" layout d.bits

end SegmentDescriptor

namespace AccessRights

def segmentTypeField : BitField := .number "segment_type" 0 4
def descriptorTypeField : BitField := .flag "descriptor_type" 4
def dplField : BitField := .number "dpl" 5 2
def presentField : BitField := .flag "present" 7
def avlField : BitField := .flag "avl" 12
def longModeField : BitField := .flag "long_mode" 13
def defaultBigField : BitField := .flag "default_big" 14
def granularityField : BitField := .flag "granularity" 15
def unusableField : BitField := .flag "unusable" 16

/-- The fields of the access rights. -/
def layout : List BitField :=
  [segmentTypeField, descriptorTypeField, dplField, presentField, avlField, longModeField,
    defaultBigField, granularityField, unusableField]

def segmentType (r : AccessRights) : BitVec 4 := segmentTypeField.get r.bits
def descriptorType (r : AccessRights) : Bool := descriptorTypeField.test r.bits
def dpl (r : AccessRights) : BitVec 2 := dplField.get r.bits
def present (r : AccessRights) : Bool := presentField.test r.bits
def avl (r : AccessRights) : Bool := avlField.test r.bits
def longMode (r : AccessRights) : Bool := longModeField.test r.bits
def defaultBig (r : AccessRights) : Bool := defaultBigField.test r.bits
def granularity (r : AccessRights) : Bool := granularityField.test r.bits
/-- Set for a segment register that holds no usable segment. -/
def unusable (r : AccessRights) : Bool := unusableField.test r.bits

/-- The access rights of a segment register without a usable segment: only the unusable bit. -/
def ofUnusable : AccessRights := ⟨unusableField.putFlag true 0⟩

/-- The dump of access rights. -/
def dump (r : AccessRights) : Dump := dumpLayout "SegmentAccessRights" layout r.bits

end AccessRights

end VtxMonitor
