import VtxMonitor.Host.Tables
import VtxMonitor.Msr.Bitmap

/-!
# Vcpu/Memory — the memory that a virtual processor owns

One allocation holds the host stack, the VMXON and VMCS regions, the MSR bitmap and the host's
descriptor tables, each page-aligned when the allocation is. The top of the host stack holds a
pointer to the virtual processor and a marker; the stack pointer of a VM-exit lies right below
them, at 8 modulo 16, as it would in a called function.
-/

namespace VtxMonitor

/-- Bit 31 of the first word of a region, which marks a shadow VMCS and is never set otherwise. -/
def shadowIndicator : BitVec 32 := 0x80000000

/-- The first word of a region for a revision identifier. -/
def stampedRevision (revision : BitVec 32) : BitVec 32 := revision &&& ~~~shadowIndicator

/-- A VMCS region as far as software sees it. -/
structure VmcsRegion where
  revision : BitVec 32 := 0
  abortIndicator : BitVec 32 := 0
deriving DecidableEq

namespace VmcsRegion

/-- Stamps the revision identifier and makes the region an ordinary VMCS. -/
def stamp (region : VmcsRegion) (revision : BitVec 32) : VmcsRegion :=
  { region with revision := stampedRevision revision }

/-- Whether the region is marked as a shadow VMCS. -/
def isShadow (region : VmcsRegion) : Bool := region.revision &&& shadowIndicator ≠ 0

end VmcsRegion

/-- A VMXON region, of which software only writes the revision identifier. -/
structure VmxonRegion where
  revision : BitVec 32 := 0
deriving DecidableEq

/-- Stamps the revision identifier. -/
def VmxonRegion.stamp (region : VmxonRegion) (revision : BitVec 32) : VmxonRegion :=
  { region with revision := stampedRevision revision }

/-- The marker above the vcpu pointer of a prepared host stack. -/
def stackMarker : Word := BitVec.allOnes 64

/-- The size of the host stack in bytes. -/
def hostStackSize : Word := 0x6000

/-- The memory of a virtual processor at its address. -/
structure VcpuMemory where
  /-- The virtual address of the allocation. -/
  base : Word
  /-- The pointer slot at the top of the host stack. -/
  vcpuPointer : Word := 0
  /-- The marker slot above the pointer. -/
  marker : Word := 0
  vmxon : VmxonRegion := {}
  vmcs : VmcsRegion := {}
  msrBitmap : MsrBitmap := .empty
  tss : TaskState := .zero
  idt : HostIdt := .empty
  gdt : HostGdt := Vector.replicate 4 0

namespace VcpuMemory

/-- The size of the allocation in bytes. -/
def size : Word := 0xc000

/-- A fresh allocation: everything in it is zero. -/
def fresh (base : Word) : VcpuMemory := { base }

def hostStackAddress (memory : VcpuMemory) : Word := memory.base

/-- The slot of the pointer to the owning virtual processor. -/
def vcpuSlot (memory : VcpuMemory) : Word := memory.base + hostStackSize - 16

/-- The slot of the marker, the last one of the stack. -/
def markerSlot (memory : VcpuMemory) : Word := memory.base + hostStackSize - 8

/-- The stack pointer after a VM-exit: 8 below the 16-byte boundary under the pointer slot. -/
def hostRsp (memory : VcpuMemory) : Word := (memory.vcpuSlot &&& ~~~0xf) - 8

def vmxonAddress (memory : VcpuMemory) : Word := memory.base + 0x6000
def vmcsAddress (memory : VcpuMemory) : Word := memory.base + 0x7000
def msrBitmapAddress (memory : VcpuMemory) : Word := memory.base + 0x8000
def tssAddress (memory : VcpuMemory) : Word := memory.base + 0x9000
def idtAddress (memory : VcpuMemory) : Word := memory.base + 0xa000
def gdtAddress (memory : VcpuMemory) : Word := memory.base + 0xb000

/-- Stamps the VMXON region. -/
def stampVmxon (revision : BitVec 32) (memory : VcpuMemory) : VcpuMemory :=
  { memory with vmxon := memory.vmxon.stamp revision }

/-- Stamps the VMCS region. -/
def stampVmcs (revision : BitVec 32) (memory : VcpuMemory) : VcpuMemory :=
  { memory with vmcs := memory.vmcs.stamp revision }

/-- Every address that means something, by name. -/
def addresses (memory : VcpuMemory) : List (String × Word) :=
  [("host_stack", memory.hostStackAddress), ("vcpu_slot", memory.vcpuSlot),
    ("reserved_slot", memory.markerSlot), ("host_rsp", memory.hostRsp),
    ("vmxon", memory.vmxonAddress), ("vmcs", memory.vmcsAddress),
    ("msr_bitmap", memory.msrBitmapAddress), ("host_tss", memory.tssAddress),
    ("host_idt", memory.idtAddress), ("host_gdt", memory.gdtAddress)]

end VcpuMemory

/-- Where the next allocations go: consecutive slots that are never used twice. -/
structure Arena where
  used : Nat := 0

namespace Arena

/-- The address of the first slot. -/
def start : Word := 0x2a5bc3700000

/-- The distance between two slots. -/
def stride : Word := 0x10000

/-- Takes the next slot. -/
def allocate (arena : Arena) : Word × Arena :=
  (start + BitVec.ofNat 64 arena.used * stride, ⟨arena.used + 1⟩)

end Arena

end VtxMonitor
