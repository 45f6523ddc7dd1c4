import VtxMonitor.Diagnostic
import VtxMonitor.Vmcs.Content

/-!
# Processor/Operation — everything the monitor asks of a processor

Whatever touches a privileged register or executes a VMX instruction is an `Operation`, and
`Operation.Reply` is what comes back. Reporting a diagnostic is an operation too, so that the
order of reports among the accesses is part of a program's meaning.
-/

namespace VtxMonitor

/-- A request to a processor. -/
inductive Operation where
  | cpuid (leaf subleaf : BitVec 32)
  | readMsr (msr : Msr.Number)
  | writeMsr (msr : Msr.Number) (value : Word)
  | readCr (register : ControlRegister)
  | writeCr (register : ControlRegister) (value : Word)
  | readDr7
  | readRflags
  | disableInterrupts
  | enableInterrupts
  | gdtr
  | idtr
  /-- The entry of 8 bytes at an index of a descriptor table. -/
  | tableEntry (table : TableRegister) (index : BitVec 16)
  | selectors
  /-- The physical address of a host virtual address, if it is mapped. -/
  | physicalAddress (address : Word)
  | vmread (field : Vmcs.Field)
  | vmwrite (field : Vmcs.Field) (content : Vmcs.Content)
  | vmxon (address : Word)
  | vmxoff
  | vmclear (address : Word)
  | vmptrld (address : Word)
  /-- Invalidates the cached mappings of all EPT contexts. -/
  | inveptAll
  /-- Starts the guest behind the request; on success the program goes on as the guest. -/
  | vmlaunch
  /-- Where the processor continues after a VM-exit. -/
  | exitEntryPoint
  /-- Where the host side handles each interrupt vector. -/
  | interruptEntryPoints
  | report (diagnostic : Diagnostic)

/-- What a processor answers to a request. -/
@[reducible]
def Operation.Reply : Operation → Type
  | .cpuid _ _ => CpuidResult
  | .readMsr _ | .readCr _ | .readDr7 | .readRflags | .tableEntry _ _ | .exitEntryPoint => Word
  | .writeMsr _ _ | .writeCr _ _ | .disableInterrupts | .enableInterrupts | .report _ => Unit
  | .gdtr | .idtr => TableRegister
  | .selectors => SegmentSelectors
  | .physicalAddress _ => Option Word
  | .vmread _ => Except VmFail Word
  | .vmwrite _ _ | .vmxon _ | .vmxoff | .vmclear _ | .vmptrld _ | .inveptAll | .vmlaunch =>
      Except VmFail Unit
  | .interruptEntryPoints => BitVec 8 → Word

end VtxMonitor
