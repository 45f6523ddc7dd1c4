import VtxMonitor.Machine.Memory
import VtxMonitor.Processor.Program

/-!
# Machine/Basic — a processor that executes privileged instructions

Where the simulated processor checks preconditions, a `Machine` only executes: every operation of
a program becomes the privileged instructions that carry it out, and the machine records them in
order. INVEPT is guarded: it is executed only where the capability MSRs report it, and a
capability MSR is read only where the one before it says that it exists (`guardMsrs`,
`inveptSupported`).
-/

namespace VtxMonitor

/-- A privileged instruction that a machine executed, with its operands. -/
inductive PrivilegedInstruction where
  | rdmsr (msr : Msr.Number)
  | wrmsr (msr : Msr.Number) (value : Word)
  | movFromCr (register : ControlRegister)
  | movToCr (register : ControlRegister) (value : Word)
  | movFromDr7
  | cli
  | sti
  | hlt
  | int3
  | vmread (field : Vmcs.Field)
  | vmwrite (field : Vmcs.Field) (content : Vmcs.Content)
  /-- A write by which the launch lets the guest go on behind it. -/
  | vmwriteLaunch (field : Vmcs.Field)
  | vmxon (address : Word)
  | vmclear (address : Word)
  | vmptrld (address : Word)
  | vmxoff
  /-- INVEPT of a type with a descriptor of two words. -/
  | invept (type low high : Word)
  | vmlaunch
  | vmresume
deriving DecidableEq

namespace Machine

/-! ## Entry points -/

/-- Where the machine continues after a VM-exit. -/
def exitEntryPoint : Word := 0x5f3a9c21d7e0

/-- Where the machine enters the handling of interrupt vector 0. -/
def interruptEntryPoints : Word := 0x5f3a9c21e000

/-- The distance between two interrupt entry points. -/
def interruptEntrySize : Word := 16

/-- Where the machine enters the handling of an interrupt vector. -/
def interruptEntryPoint (vector : BitVec 8) : Word :=
  interruptEntryPoints + vector.setWidth 64 * interruptEntrySize

end Machine

namespace PrivilegedInstruction

/-- The dump of an instruction: its mnemonic, then its operands. -/
def dump : PrivilegedInstruction → Text.Dump
  | .rdmsr msr => .list [.name "rdmsr", .number msr.toNat]
  | .wrmsr msr value => .list [.name "wrmsr", .number msr.toNat, .number value.toNat]
  | .movFromCr register => .list [.name "mov_from", .name register.label]
  | .movToCr register value =>
      .list [.name "mov_to", .name register.label, .number value.toNat]
  | .movFromDr7 => .list [.name "mov_from", .name "dr7"]
  | .cli => .list [.name "cli"]
  | .sti => .list [.name "sti"]
  | .hlt => .list [.name "hlt"]
  | .int3 => .list [.name "int3"]
  | .vmread field => .list [.name "vmread", .number field.toNat]
  | .vmwrite field content => .list [.name "vmwrite", .number field.toNat, content.dump]
  | .vmwriteLaunch field => .list [.name "vmwrite", .number field.toNat, .name "launch"]
  | .vmxon address => .list [.name "vmxon", .number address.toNat]
  | .vmclear address => .list [.name "vmclear", .number address.toNat]
  | .vmptrld address => .list [.name "vmptrld", .number address.toNat]
  | .vmxoff => .list [.name "vmxoff"]
  | .invept type low high =>
      .list [.name "invept", .number type.toNat, .number low.toNat, .number high.toNat]
  | .vmlaunch => .list [.name "vmlaunch"]
  | .vmresume => .list [.name "vmresume"]

end PrivilegedInstruction

/-- The flags by which a VMX instruction reports how it ended. -/
structure StatusFlags where
  carry : Bool := false
  zero : Bool := false
deriving DecidableEq

/-- What the flags mean: the carry flag takes precedence. -/
def StatusFlags.outcome : StatusFlags → Except VmFail Unit
  | ⟨false, false⟩ => .ok ()
  | ⟨false, true⟩ => .error .valid
  | ⟨true, _⟩ => .error .invalid

/-- The state of a machine, with the instructions it executed. -/
structure Machine where
  msrs : Msr.Number → Word := fun _ => 0
  cpuid : BitVec 32 → BitVec 32 → CpuidResult := fun _ _ => {}
  cr0 : Word := 0
  cr3 : Word := 0
  cr4 : Word := 0
  dr7 : Word := 0
  rflags : Word := 0
  gdtr : TableRegister := {}
  idtr : TableRegister := {}
  selectors : SegmentSelectors := {}
  memory : Memory := .zero
  /-- Maps host virtual addresses to physical ones, once it is installed. -/
  addressMap : Option (Word → Option Word) := none
  /-- The stored VMCS fields, each once. -/
  fields : List (Vmcs.Field × Vmcs.Content) := []
  /-- How VMLAUNCH fails, if it does. -/
  vmlaunch : Option VmFail := none
  /-- How VMRESUME fails, if it does. -/
  vmresume : Option VmFail := none
  /-- The flags that INVEPT leaves. -/
  invept : StatusFlags := {}
  executed : List PrivilegedInstruction := []

namespace Machine

/-! ## Addresses -/

/-- Installs the mapping of addresses. Only the first one counts. -/
def installAddressMap (map : Word → Option Word) (m : Machine) : Machine :=
  { m with addressMap := m.addressMap <|> some map }

/-- The mapping in which physical addresses lie a page above the virtual ones. -/
def nextPage (address : Word) : Option Word :=
  if address.uaddOverflow 0x1000 then none else some (address + 0x1000)

/-- The physical address of a virtual one. -/
def physicalAddress (m : Machine) (address : Word) : Option Word :=
  m.addressMap.bind fun map => map address

/-- The entry of a descriptor table; zero for an entry that is not wholly within the limit. -/
def tableEntry (m : Machine) (table : TableRegister) (index : BitVec 16) : Word :=
  if 8 * index.toNat + 7 ≤ table.limit.toNat then
    m.memory.load (table.base + index.setWidth 64 * 8)
  else 0

/-! ## State -/

/-- Records instructions. -/
def execute (instructions : List PrivilegedInstruction) (m : Machine) : Machine :=
  { m with executed := m.executed ++ instructions }

def setMsr (msr : Msr.Number) (value : Word) (m : Machine) : Machine :=
  { m with msrs := fun other => if other = msr then value else m.msrs other }

/-- The content of a VMCS field; a field that was never stored reads as zero. -/
def field (m : Machine) (field : Vmcs.Field) : Word :=
  ((m.fields.lookup field).map (·.resolve exitEntryPoint)).getD 0

/-- Stores a VMCS field. -/
def setField (field : Vmcs.Field) (content : Vmcs.Content) (m : Machine) : Machine :=
  { m with fields := (field, content) :: m.fields.filter fun entry => entry.1 ≠ field }

/-- Stores numbers in VMCS fields, in order. -/
def setFields (values : List (Vmcs.Field × Word)) (m : Machine) : Machine :=
  values.foldl (fun m entry => m.setField entry.1 (.word entry.2)) m

def readCr (m : Machine) : ControlRegister → Word
  | .cr0 => m.cr0
  | .cr3 => m.cr3
  | .cr4 => m.cr4

def setCr (register : ControlRegister) (value : Word) (m : Machine) : Machine :=
  match register with
  | .cr0 => { m with cr0 := value }
  | .cr3 => { m with cr3 := value }
  | .cr4 => { m with cr4 := value }

/-! ## INVEPT -/

/-- The type of INVEPT that invalidates the cached mappings of all contexts. -/
def inveptAllContexts : Word := 2

/-- Whether the primary controls allow secondary controls. -/
def allowsSecondary (m : Machine) : Bool := (m.msrs Msr.procBasedCtls).getLsbD (32 + 31)

/-- Whether the secondary controls allow EPT. -/
def allowsEpt (m : Machine) : Bool := (m.msrs Msr.procBasedCtls2).getLsbD (32 + 1)

/-- Whether the EPT capabilities report INVEPT and its type for all contexts. -/
def reportsInvept (m : Machine) : Bool :=
  (m.msrs Msr.eptVpidCap).getLsbD 20 && (m.msrs Msr.eptVpidCap).getLsbD 26

/-- The capability MSRs that are read before INVEPT. -/
def guardMsrs (m : Machine) : List Msr.Number :=
  if !m.allowsSecondary then [Msr.procBasedCtls]
  else if !m.allowsEpt then [Msr.procBasedCtls, Msr.procBasedCtls2]
  else [Msr.procBasedCtls, Msr.procBasedCtls2, Msr.eptVpidCap]

/-- Whether INVEPT may be executed. -/
def inveptSupported (m : Machine) : Bool := m.allowsSecondary && m.allowsEpt && m.reportsInvept

/-- Invalidates the cached mappings of all contexts, where that is supported. -/
def inveptAll (m : Machine) : Except VmFail Unit × Machine :=
  let guarded := m.execute (m.guardMsrs.map .rdmsr)
  if m.inveptSupported then
    (m.invept.outcome, guarded.execute [.invept inveptAllContexts 0 0])
  else (.ok (), guarded)

/-! ## Answering operations -/

/-- What a launch executes: the guest is to go on behind it, with the same stack. -/
def launchInstructions : List PrivilegedInstruction :=
  [.vmwriteLaunch .guestRsp, .vmwriteLaunch .guestRip, .vmlaunch]

/-- The outcome of an instruction that fails in a given way, if at all. -/
def outcome : Option VmFail → Except VmFail Unit
  | none => .ok ()
  | some fail => .error fail

/-- The answer to an operation, and the machine behind it. -/
def answer : (op : Operation) → Machine → op.Reply × Machine
  | .cpuid leaf subleaf, m => (m.cpuid leaf subleaf, m)
  | .readMsr msr, m => (m.msrs msr, m.execute [.rdmsr msr])
  | .writeMsr msr value, m => ((), (m.execute [.wrmsr msr value]).setMsr msr value)
  | .readCr register, m => (m.readCr register, m.execute [.movFromCr register])
  | .writeCr register value, m =>
      ((), (m.execute [.movToCr register value]).setCr register value)
  | .readDr7, m => (m.dr7, m.execute [.movFromDr7])
  | .readRflags, m => (m.rflags, m)
  | .disableInterrupts, m =>
      ((), { m.execute [.cli] with rflags := m.rflags &&& ~~~rflagsIf })
  | .enableInterrupts, m => ((), { m.execute [.sti] with rflags := m.rflags ||| rflagsIf })
  | .gdtr, m => (m.gdtr, m)
  | .idtr, m => (m.idtr, m)
  | .tableEntry table index, m => (m.tableEntry table index, m)
  | .selectors, m => (m.selectors, m)
  | .physicalAddress address, m => (m.physicalAddress address, m)
  | .vmread field, m => (.ok (m.field field), m.execute [.vmread field])
  | .vmwrite field content, m =>
      (.ok (), (m.execute [.vmwrite field content]).setField field content)
  | .vmxon address, m => (.ok (), m.execute [.vmxon address])
  | .vmxoff, m => (.ok (), m.execute [.vmxoff])
  | .vmclear address, m => (.ok (), m.execute [.vmclear address])
  | .vmptrld address, m => (.ok (), m.execute [.vmptrld address])
  | .inveptAll, m => m.inveptAll
  | .vmlaunch, m => (outcome m.vmlaunch, m.execute launchInstructions)
  | .exitEntryPoint, m => (exitEntryPoint, m)
  | .interruptEntryPoints, m => (interruptEntryPoint, m)
  | .report _, m => ((), m)

/-- What a machine reports besides its answer: an INVEPT that it leaves out. -/
def remarks : Operation → Machine → List Diagnostic
  | .inveptAll, m => if m.inveptSupported then [] else [.inveptSkipped]
  | _, _ => []

/-- The machine as hardware. -/
def hardware : Hardware Machine where
  answer := answer
  remarks := remarks

end Machine

end VtxMonitor
