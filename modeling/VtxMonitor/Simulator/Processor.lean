import VtxMonitor.Processor.Program

/-!
# Simulator/Processor — a processor in software

A `SimulatedProcessor` keeps every register, MSR and VMCS field, checks the preconditions of the VMX
instructions that matter for bring-up, and records the operations that change privileged state, so
that their order can be seen afterwards.
-/

namespace VtxMonitor

/-- A privileged operation that the simulator recorded. -/
inductive Event where
  | writeMsr (msr : Msr.Number) (value : Word)
  | writeCr (register : ControlRegister) (value : Word)
  | disableInterrupts
  | enableInterrupts
  | vmxon (address : Word)
  | vmxoff
  | vmclear (address : Word)
  | vmptrld (address : Word)
  | inveptAllContexts
  | vmlaunch
deriving DecidableEq

/-- The dump of an event: its name, then its operands. -/
def Event.dump : Event → Text.Dump
  | .writeMsr msr value => .list [.name "WriteMsr", .number msr.toNat, .number value.toNat]
  | .writeCr register value =>
      .list [.name "WriteCr", .name register.label.capitalize, .number value.toNat]
  | .disableInterrupts => .list [.name "DisableInterrupts"]
  | .enableInterrupts => .list [.name "EnableInterrupts"]
  | .vmxon address => .list [.name "Vmxon", .number address.toNat]
  | .vmxoff => .list [.name "Vmxoff"]
  | .vmclear address => .list [.name "Vmclear", .number address.toNat]
  | .vmptrld address => .list [.name "Vmptrld", .number address.toNat]
  | .inveptAllContexts => .list [.name "InveptAllContexts"]
  | .vmlaunch => .list [.name "Vmlaunch"]

/-- Replaces one value of a function. -/
def update {κ ν : Type} [DecidableEq κ] (f : κ → ν) (key : κ) (value : ν) : κ → ν :=
  fun other => if other = key then value else f other

@[simp]
theorem update_self {κ ν : Type} [DecidableEq κ] (f : κ → ν) (key : κ) (value : ν) :
    update f key value key = value := by simp [update]

theorem update_of_ne {κ ν : Type} [DecidableEq κ] (f : κ → ν) {key other : κ} (value : ν)
    (h : other ≠ key) : update f key value other = f other := by simp [update, h]

/-- The state of a simulated processor. -/
@[ext]
structure SimulatedProcessor where
  msrs : Msr.Number → Word
  cpuid : BitVec 32 → CpuidResult
  cr0 : Word
  cr3 : Word
  cr4 : Word
  rflags : Word
  selectors : SegmentSelectors
  /-- What a physical address exceeds its virtual address by. -/
  physicalOffset : Word
  vmxOperation : Bool
  currentVmcs : Option Word
  /-- The VMCS fields that were ever stored. -/
  fields : Vmcs.Field → Option Word
  /-- The error with which the next launches fail. -/
  launchFailure : Option (BitVec 32)
  launched : Bool
  events : List Event

namespace SimulatedProcessor

/-! ## The processor after reset -/

/-- Where a simulated processor continues after a VM-exit. -/
def exitEntryPoint : Word := 0xfffff8000dead000

/-- The entry point of interrupt vector 0; the others follow every 16 bytes. -/
def interruptEntryPoints : Word := 0xfffff8000beef000

/-- The entry point of an interrupt vector. -/
def interruptEntryPoint (vector : BitVec 8) : Word :=
  interruptEntryPoints + vector.setWidth 64 * 16

/-- Flat 64-bit code at 0x08, flat data at 0x10 and a task segment at 0x20. -/
def gdt : List Word :=
  [0, 0x00af9b000000ffff, 0x00cf93000000ffff, 0, 0x01008b2000000067, 0x00000000fffff800]

def gdtr : TableRegister := ⟨0xfffff80000100000, 0x2f⟩
def idtr : TableRegister := ⟨0xfffff80000101000, 0xfff⟩

/-- The debug-control register 7, which is never written. -/
def dr7 : Word := 0x400

/-- The entry of a descriptor table; tables other than the GDT read as zero. -/
def tableEntry (table : TableRegister) (index : BitVec 16) : Word :=
  if table.base = gdtr.base then gdt[index.toNat]?.getD 0 else 0

/-- The MSRs after reset: VMX is enabled and the capabilities resemble a recent core. -/
def initialMsrs : List (Msr.Number × Word) :=
  [(Msr.featureControl, 0x5), (Msr.vmxBasic, 0x0098100000000004),
    (Msr.pinBasedCtls, 0x000000ff00000016), (Msr.truePinBasedCtls, 0x000000ff00000016),
    (Msr.procBasedCtls, 0xfff9fffe0401e172), (Msr.trueProcBasedCtls, 0xfff9fffe04006172),
    (Msr.procBasedCtls2, 0x00ffffff00000000),
    (Msr.exitCtls, 0x01ffffff00036dff), (Msr.trueExitCtls, 0x01ffffff00036dfb),
    (Msr.entryCtls, 0x0003ffff000011ff), (Msr.trueEntryCtls, 0x0003ffff000011fb),
    (Msr.cr0Fixed0, 0x80000021), (Msr.cr0Fixed1, 0xffffffff),
    (Msr.cr4Fixed0, cr4Vmxe), (Msr.cr4Fixed1, 0x003767ff),
    (Msr.fsBase, 0x0000000000400000), (Msr.gsBase, 0xfffff80000200000)]

/-- The answer to CPUID leaf 1 after reset, which reports VMX. -/
def initialCpuid : CpuidResult := ⟨0x000906ea, 0x00100800, 0x7ffafbff, 0xbfebfbff⟩

/-- A processor after reset. -/
def reset : SimulatedProcessor where
  msrs msr := (initialMsrs.lookup msr).getD 0
  cpuid leaf := if leaf = 1 then initialCpuid else {}
  cr0 := 0x80050033
  cr3 := 0x001ad000
  cr4 := 0x003706f8
  rflags := 0x246
  selectors := { cs := 0x08, ss := 0x10, ds := 0x10, es := 0x10, tr := 0x20 }
  physicalOffset := 0
  vmxOperation := false
  currentVmcs := none
  fields _ := none
  launchFailure := none
  launched := false
  events := []

/-! ## Setting the stage from outside -/

/-- The VMCS of a processor that skipped the bring-up. -/
def scratchVmcs : Word := 0x7f000

/-- Skips the bring-up: VMX operation with a current VMCS. -/
def enterVmxWithCurrentVmcs (cpu : SimulatedProcessor) : SimulatedProcessor :=
  { cpu with cr4 := cpu.cr4 ||| cr4Vmxe, vmxOperation := true, currentVmcs := some scratchVmcs }

def setMsr (cpu : SimulatedProcessor) (msr : Msr.Number) (value : Word) : SimulatedProcessor :=
  { cpu with msrs := update cpu.msrs msr value }

def setCpuid (cpu : SimulatedProcessor) (leaf : BitVec 32) (result : CpuidResult) :
    SimulatedProcessor :=
  { cpu with cpuid := update cpu.cpuid leaf result }

/-- Stores a VMCS field directly, also one that software cannot write. -/
def setField (cpu : SimulatedProcessor) (field : Vmcs.Field) (value : Word) :
    SimulatedProcessor :=
  { cpu with fields := update cpu.fields field (some value) }

/-- Stores what a VM-exit leaves in the VMCS. -/
def simulateExit (cpu : SimulatedProcessor) (reason : BitVec 32) (rip length : Word) :
    SimulatedProcessor :=
  ((cpu.setField .exitReason (reason.setWidth 64)).setField .exitInstructionLength length).setField
    .guestRip rip

/-! ## What can be observed -/

/-- Whether maskable interrupts are delivered. -/
def interruptsEnabled (cpu : SimulatedProcessor) : Bool := cpu.rflags &&& rflagsIf ≠ 0

/-- The stored fields below an encoding, in ascending order. -/
def fieldsBelow (cpu : SimulatedProcessor) (bound : Nat) : List (Vmcs.Field × Word) :=
  (List.range bound).filterMap fun n =>
    (cpu.fields (BitVec.ofNat 32 n)).map (BitVec.ofNat 32 n, ·)

/-! ## Answering operations -/

/-- Records an event. -/
def record (cpu : SimulatedProcessor) (event : Event) : SimulatedProcessor :=
  { cpu with events := cpu.events ++ [event] }

/-- The physical address of a virtual one, if it fits into 64 bits. -/
def physicalAddress (cpu : SimulatedProcessor) (address : Word) : Option Word :=
  if address.uaddOverflow cpu.physicalOffset then none
  else some (address + cpu.physicalOffset)

def readCr (cpu : SimulatedProcessor) : ControlRegister → Word
  | .cr0 => cpu.cr0
  | .cr3 => cpu.cr3
  | .cr4 => cpu.cr4

def setCr (cpu : SimulatedProcessor) (register : ControlRegister) (value : Word) :
    SimulatedProcessor :=
  match register with
  | .cr0 => { cpu with cr0 := value }
  | .cr3 => { cpu with cr3 := value }
  | .cr4 => { cpu with cr4 := value }

/-- VMXON fails in VMX operation, without CR4.VMXE and for a region that is not page-aligned. -/
def vmxon (cpu : SimulatedProcessor) (address : Word) : Except VmFail Unit × SimulatedProcessor :=
  let cpu := cpu.record (.vmxon address)
  if cpu.vmxOperation || cpu.cr4 &&& cr4Vmxe = 0 || address &&& 0xfff ≠ 0 then
    (.error .invalid, cpu)
  else (.ok (), { cpu with vmxOperation := true })

/-- VMXOFF leaves VMX operation, and no VMCS is current any more. -/
def vmxoff (cpu : SimulatedProcessor) : Except VmFail Unit × SimulatedProcessor :=
  let cpu := cpu.record .vmxoff
  if cpu.vmxOperation then (.ok (), { cpu with vmxOperation := false, currentVmcs := none })
  else (.error .invalid, cpu)

/-- VMCLEAR of the current VMCS leaves no VMCS current. -/
def vmclear (cpu : SimulatedProcessor) (address : Word) :
    Except VmFail Unit × SimulatedProcessor :=
  let cpu := cpu.record (.vmclear address)
  if cpu.vmxOperation then
    (.ok (), if cpu.currentVmcs = some address then { cpu with currentVmcs := none } else cpu)
  else (.error .invalid, cpu)

/-- VMPTRLD makes a VMCS current. -/
def vmptrld (cpu : SimulatedProcessor) (address : Word) :
    Except VmFail Unit × SimulatedProcessor :=
  let cpu := cpu.record (.vmptrld address)
  if cpu.vmxOperation then (.ok (), { cpu with currentVmcs := some address })
  else (.error .invalid, cpu)

/-- INVEPT has no effect here, but needs VMX operation. -/
def inveptAll (cpu : SimulatedProcessor) : Except VmFail Unit × SimulatedProcessor :=
  let cpu := cpu.record .inveptAllContexts
  if cpu.vmxOperation then (.ok (), cpu) else (.error .invalid, cpu)

/-- VMLAUNCH needs a current VMCS, in which a configured failure is recorded. -/
def vmlaunch (cpu : SimulatedProcessor) : Except VmFail Unit × SimulatedProcessor :=
  let cpu := cpu.record .vmlaunch
  if cpu.currentVmcs.isNone then (.error .invalid, cpu)
  else
    match cpu.launchFailure with
    | some code => (.error .valid, cpu.setField .instructionError (code.setWidth 64))
    | none => (.ok (), { cpu with launched := true })

/-- A field of the current VMCS; a field that was never stored reads as zero. -/
def vmread (cpu : SimulatedProcessor) (field : Vmcs.Field) : Except VmFail Word :=
  if cpu.currentVmcs.isNone then .error .invalid else .ok ((cpu.fields field).getD 0)

/-- Writes a field of the current VMCS. -/
def vmwrite (cpu : SimulatedProcessor) (field : Vmcs.Field) (value : Word) :
    Except VmFail Unit × SimulatedProcessor :=
  if cpu.currentVmcs.isNone then (.error .invalid, cpu) else (.ok (), cpu.setField field value)

/-- The answer to an operation, and the processor behind it. -/
def answer : (op : Operation) → SimulatedProcessor → op.Reply × SimulatedProcessor
  | .cpuid leaf _, cpu => (cpu.cpuid leaf, cpu)
  | .readMsr msr, cpu => (cpu.msrs msr, cpu)
  | .writeMsr msr value, cpu => ((), (cpu.record (.writeMsr msr value)).setMsr msr value)
  | .readCr register, cpu => (cpu.readCr register, cpu)
  | .writeCr register value, cpu =>
      ((), (cpu.record (.writeCr register value)).setCr register value)
  | .readDr7, cpu => (dr7, cpu)
  | .readRflags, cpu => (cpu.rflags, cpu)
  | .disableInterrupts, cpu =>
      ((), { cpu.record .disableInterrupts with rflags := cpu.rflags &&& ~~~rflagsIf })
  | .enableInterrupts, cpu =>
      ((), { cpu.record .enableInterrupts with rflags := cpu.rflags ||| rflagsIf })
  | .gdtr, cpu => (gdtr, cpu)
  | .idtr, cpu => (idtr, cpu)
  | .tableEntry table index, cpu => (tableEntry table index, cpu)
  | .selectors, cpu => (cpu.selectors, cpu)
  | .physicalAddress address, cpu => (cpu.physicalAddress address, cpu)
  | .vmread field, cpu => (cpu.vmread field, cpu)
  | .vmwrite field content, cpu => cpu.vmwrite field (content.resolve exitEntryPoint)
  | .vmxon address, cpu => cpu.vmxon address
  | .vmxoff, cpu => cpu.vmxoff
  | .vmclear address, cpu => cpu.vmclear address
  | .vmptrld address, cpu => cpu.vmptrld address
  | .inveptAll, cpu => cpu.inveptAll
  | .vmlaunch, cpu => cpu.vmlaunch
  | .exitEntryPoint, cpu => (exitEntryPoint, cpu)
  | .interruptEntryPoints, cpu => (interruptEntryPoint, cpu)
  | .report _, cpu => ((), cpu)

/-- The simulated processor as hardware. -/
def hardware : Hardware SimulatedProcessor where
  answer := answer

end SimulatedProcessor

end VtxMonitor
