import VtxMonitor.Msr.Number

/-!
# Msr/Bitmap — which MSR accesses of the guest exit

The MSR bitmap has one bit per MSR and access kind for the two ranges of 0x2000 registers it covers;
a set bit makes the access exit. Registers outside both ranges always exit. Each quarter of the
bitmap is a string of 0x2000 bits, byte `i` of the page being bits `8 * i` to `8 * i + 7`.
-/

namespace VtxMonitor

open Text (Dump)

/-- The two kinds of access to an MSR. -/
inductive MsrAccess where
  | read
  | write
deriving DecidableEq

/-- The two ranges of MSR numbers that the bitmap covers. -/
inductive MsrRange where
  /-- 0000_0000 to 0000_1FFF -/
  | low
  /-- C000_0000 to C000_1FFF -/
  | high
deriving DecidableEq

/-- The range that an MSR lies in, if it is covered by the bitmap. -/
def MsrRange.of? (msr : Msr.Number) : Option MsrRange :=
  if msr.toNat < 0x2000 then some .low
  else if 0xc0000000 ≤ msr.toNat ∧ msr.toNat < 0xc0002000 then some .high
  else none

/-- The four quarters of the MSR bitmap, each 0x400 bytes long. -/
structure MsrBitmap where
  readLow : BitVec 0x2000
  readHigh : BitVec 0x2000
  writeLow : BitVec 0x2000
  writeHigh : BitVec 0x2000
deriving DecidableEq

namespace MsrBitmap

/-- The bitmap that lets every covered access pass. -/
def empty : MsrBitmap := ⟨0, 0, 0, 0⟩

/-- The bitmap in which every byte has the same value. -/
def filled (byte : BitVec 8) : MsrBitmap :=
  let quarter : BitVec 0x2000 := byte.replicate 0x400
  ⟨quarter, quarter, quarter, quarter⟩

/-- The quarter for an access kind and a range. -/
def quarter (bitmap : MsrBitmap) : MsrAccess → MsrRange → BitVec 0x2000
  | .read, .low => bitmap.readLow
  | .read, .high => bitmap.readHigh
  | .write, .low => bitmap.writeLow
  | .write, .high => bitmap.writeHigh

/-- Replaces the quarter for an access kind and a range. -/
def setQuarter (bitmap : MsrBitmap) (bits : BitVec 0x2000) : MsrAccess → MsrRange → MsrBitmap
  | .read, .low => { bitmap with readLow := bits }
  | .read, .high => { bitmap with readHigh := bits }
  | .write, .low => { bitmap with writeLow := bits }
  | .write, .high => { bitmap with writeHigh := bits }

/-- The position of an MSR within its range. -/
def position (msr : Msr.Number) : Nat := msr.toNat % 0x2000

/-- Makes one kind of access to an MSR exit. An MSR outside the ranges exits anyway. -/
def hook (access : MsrAccess) (msr : Msr.Number) (bitmap : MsrBitmap) : MsrBitmap :=
  match MsrRange.of? msr with
  | none => bitmap
  | some range =>
      bitmap.setQuarter (bitmap.quarter access range ||| (1 <<< position msr)) access range

/-- Whether an access to an MSR exits. -/
def isHooked (bitmap : MsrBitmap) (access : MsrAccess) (msr : Msr.Number) : Bool :=
  match MsrRange.of? msr with
  | none => true
  | some range => (bitmap.quarter access range).getLsbD (position msr)

/-- A byte of a quarter. -/
def byte (bits : BitVec 0x2000) (i : Nat) : BitVec 8 := bits.extractLsb' (8 * i) 8

/-- The bytes of a quarter that are not zero, with their indices in ascending order. -/
def nonzeroBytes (bits : BitVec 0x2000) : List (Nat × BitVec 8) :=
  (List.range 0x400).filterMap fun i =>
    if byte bits i = 0 then none else some (i, byte bits i)

end MsrBitmap

/-- The MSR accesses that are made to exit in every fresh bitmap, in the order they were asked
for. -/
structure MsrIntercepts where
  reads : List Msr.Number := []
  writes : List Msr.Number := []
deriving DecidableEq

namespace MsrIntercepts

/-- Whether no access is intercepted. -/
def isEmpty (intercepts : MsrIntercepts) : Bool :=
  intercepts.reads.isEmpty && intercepts.writes.isEmpty

/-- Every intercepted access: first the reads, then the writes. -/
def accesses (intercepts : MsrIntercepts) : List (MsrAccess × Msr.Number) :=
  intercepts.reads.map (.read, ·) ++ intercepts.writes.map (.write, ·)

/-- Hooks every intercepted access. -/
def apply (intercepts : MsrIntercepts) (bitmap : MsrBitmap) : MsrBitmap :=
  intercepts.accesses.foldl (fun bitmap access => bitmap.hook access.1 access.2) bitmap

/-- The MSRs outside the bitmap's ranges, for which a hook has no effect. -/
def outside (intercepts : MsrIntercepts) : List Msr.Number :=
  (intercepts.accesses.map Prod.snd).filter fun msr => (MsrRange.of? msr).isNone

/-- The dump of the intercepts. -/
def dump (intercepts : MsrIntercepts) : Dump :=
  .record "MsrIntercepts"
    [("rdmsr", .list (intercepts.reads.map fun msr => .number msr.toNat)),
      ("wrmsr", .list (intercepts.writes.map fun msr => .number msr.toNat))]

end MsrIntercepts

end VtxMonitor
