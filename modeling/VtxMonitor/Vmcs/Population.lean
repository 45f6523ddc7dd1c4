import VtxMonitor.Control.Writer
import VtxMonitor.Segment.Load
import VtxMonitor.Vcpu.Memory

/-!
# Vmcs/Population — filling the current VMCS before a launch

The control fields ask for what the monitor needs and for nothing else, the host-state area leads
to the virtual processor's own stack and tables, and the guest-state area is a copy of the
processor as it is, so that the guest goes on where the launch leaves off.
-/

namespace VtxMonitor.Vmcs

/-! ## Control fields -/

/-- The bits that the monitor asks for in each control word. Non-maskable interrupts exit and are
virtual; MSR accesses exit by the bitmap; CR3 accesses exit; instructions that would otherwise be
undefined in the guest are enabled. -/
def requestedControls : VmxControl → BitVec 32
  | .pinBased => Flag.union [PinBasedControls.nmiExiting, PinBasedControls.virtualNmis]
  | .primary =>
      Flag.union [PrimaryControls.useMsrBitmaps, PrimaryControls.secondaryControls,
        PrimaryControls.cr3LoadExiting, PrimaryControls.cr3StoreExiting]
  | .secondary =>
      Flag.union [SecondaryControls.enableRdtscp, SecondaryControls.enableInvpcid,
        SecondaryControls.enableXsavesXrstors, SecondaryControls.enableUserWaitPause,
        SecondaryControls.concealVmxFromPt]
  | .exit =>
      Flag.union [ExitControls.saveDebugControls, ExitControls.hostAddressSpaceSize,
        ExitControls.concealVmxFromPt]
  | .entry =>
      Flag.union [EntryControls.loadDebugControls, EntryControls.ia32eModeGuest,
        EntryControls.concealVmxFromPt]

/-- The control words in the order in which they are written. -/
def controlOrder : List VmxControl := [.pinBased, .primary, .secondary, .exit, .entry]

/-- Writes every control word, adjusted to what the processor allows. -/
def writeControlWords : List VmxControl → Procedure Unit
  | [] => pure ()
  | control :: rest => do
      let _ ← control.writeAdjusted (requestedControls control)
      writeControlWords rest

/-- Fields that are zero before the MSR-bitmap address is written: no exception exits, the guest
owns every bit of CR0 and CR4, and there are no CR3 targets. -/
def zeroedBeforeBitmap : List Field :=
  [.exceptionBitmap, .pageFaultMask, .pageFaultMatch, .cr0Mask, .cr4Mask, .cr0Shadow, .cr4Shadow,
    .cr3TargetCount, .cr3Target0, .cr3Target1, .cr3Target2, .cr3Target3]

/-- Fields that are zero after the MSR-bitmap address is written: no MSRs are saved or loaded, and
nothing is injected on the first entry. -/
def zeroedAfterBitmap : List Field :=
  [.exitMsrStoreCount, .exitMsrStoreAddress, .exitMsrLoadCount, .exitMsrLoadAddress,
    .entryMsrLoadCount, .entryMsrLoadAddress, .entryInterruption, .entryErrorCode,
    .entryInstructionLength]

/-- Writes the execution, exit and entry control fields. -/
def writeControlFields (memory : VcpuMemory) : Procedure Unit := do
  writeControlWords controlOrder
  writeAll (zeroedBeforeBitmap.map (·, 0))
  let bitmap ← Procedure.physicalAddress memory.msrBitmapAddress
  write .msrBitmapAddress bitmap
  writeAll (zeroedAfterBitmap.map (·, 0))

/-- Copies the control registers to fields of the VMCS. -/
def copyControlRegisters (cr0Field cr3Field cr4Field : Field) : Procedure Unit := do
  let cr0 ← Program.request (.readCr .cr0)
  let cr3 ← Program.request (.readCr .cr3)
  let cr4 ← Program.request (.readCr .cr4)
  writeAll [(cr0Field, cr0), (cr3Field, cr3), (cr4Field, cr4)]

/-! ## Host state -/

/-- The host-state fields behind the control registers, the stack pointer and the instruction
pointer, for a virtual processor's memory. -/
def hostFields (memory : VcpuMemory) : List (Field × Word) :=
  [(.hostCsSelector, hostCsSelector.setWidth 64), (.hostTrSelector, hostTrSelector.setWidth 64),
    (.hostSsSelector, 0), (.hostDsSelector, 0), (.hostEsSelector, 0), (.hostFsSelector, 0),
    (.hostGsSelector, 0), (.hostFsBase, 0), (.hostGsBase, 0),
    (.hostTrBase, memory.tssAddress), (.hostGdtrBase, memory.gdtAddress),
    (.hostIdtrBase, memory.idtAddress), (.hostSysenterCs, 0), (.hostSysenterEsp, 0),
    (.hostSysenterEip, 0)]

/-- Writes where a VM-exit goes on, and with which stack, selectors and tables. -/
def writeHostContext (memory : VcpuMemory) : Procedure Unit := do
  let entryPoint ← Program.request .exitEntryPoint
  Program.report (.hostEntry memory.hostRsp entryPoint)
  write .hostRsp memory.hostRsp
  writeExitEntryPoint .hostRip
  writeAll (hostFields memory)

/-- Writes the host-state area. -/
def writeHostFields (memory : VcpuMemory) : Procedure Unit := do
  copyControlRegisters .hostCr0 .hostCr3 .hostCr4
  writeHostContext memory

/-! ## Guest state -/

/-- The segment registers of the guest. -/
inductive GuestSegment where
  | cs | ss | ds | es | fs | gs | tr | ldtr
deriving DecidableEq

namespace GuestSegment

/-- The segment registers in the order in which they are written. -/
def order : List GuestSegment := [.cs, .ss, .ds, .es, .fs, .gs, .tr, .ldtr]

def selectorField : GuestSegment → Field
  | .cs => .guestCsSelector | .ss => .guestSsSelector | .ds => .guestDsSelector
  | .es => .guestEsSelector | .fs => .guestFsSelector | .gs => .guestGsSelector
  | .tr => .guestTrSelector | .ldtr => .guestLdtrSelector

def baseField : GuestSegment → Field
  | .cs => .guestCsBase | .ss => .guestSsBase | .ds => .guestDsBase | .es => .guestEsBase
  | .fs => .guestFsBase | .gs => .guestGsBase | .tr => .guestTrBase | .ldtr => .guestLdtrBase

def limitField : GuestSegment → Field
  | .cs => .guestCsLimit | .ss => .guestSsLimit | .ds => .guestDsLimit | .es => .guestEsLimit
  | .fs => .guestFsLimit | .gs => .guestGsLimit | .tr => .guestTrLimit | .ldtr => .guestLdtrLimit

def rightsField : GuestSegment → Field
  | .cs => .guestCsRights | .ss => .guestSsRights | .ds => .guestDsRights
  | .es => .guestEsRights | .fs => .guestFsRights | .gs => .guestGsRights
  | .tr => .guestTrRights | .ldtr => .guestLdtrRights

/-- The selector that is loaded in a segment register. -/
def selector (selectors : SegmentSelectors) : GuestSegment → BitVec 16
  | .cs => selectors.cs | .ss => selectors.ss | .ds => selectors.ds | .es => selectors.es
  | .fs => selectors.fs | .gs => selectors.gs | .tr => selectors.tr | .ldtr => selectors.ldtr

/-- The four fields that describe a segment register. -/
def fields (register : GuestSegment) (segment : Segment) : List (Field × Word) :=
  [(register.selectorField, segment.selector.setWidth 64), (register.baseField, segment.base),
    (register.limitField, segment.limit.setWidth 64),
    (register.rightsField, segment.accessRights.bits.setWidth 64)]

end GuestSegment

/-- Writes the guest fields of segment registers from the processor's GDT. -/
def writeGuestSegments (gdtr : TableRegister) (selectors : SegmentSelectors) :
    List GuestSegment → Procedure Unit
  | [] => pure ()
  | register :: rest => do
      let segment ← Segment.ofGdt gdtr (register.selector selectors)
      Program.report (.guestSegment segment)
      writeAll (register.fields segment)
      writeGuestSegments gdtr selectors rest

/-- The link pointer that stands for "no shadow VMCS". -/
def noLinkPointer : Word := BitVec.allOnes 64

/-- Writes the guest-state area behind the control registers. RSP and RIP are filled in by the
launch; the FS and GS bases come from their MSRs, since descriptors only hold 32 bits of them. -/
def writeGuestContext : Procedure Unit := do
  let dr7 ← Program.request .readDr7
  writeAll [(.guestDr7, dr7), (.guestRsp, 0), (.guestRip, 0)]
  let rflags ← Program.request .readRflags
  write .guestRflags rflags
  let gdtr ← Program.request .gdtr
  let idtr ← Program.request .idtr
  let selectors ← Program.request .selectors
  writeGuestSegments gdtr selectors GuestSegment.order
  let fsBase ← Program.request (.readMsr Msr.fsBase)
  let gsBase ← Program.request (.readMsr Msr.gsBase)
  writeAll [(.guestFsBase, fsBase), (.guestGsBase, gsBase),
    (.guestGdtrBase, gdtr.base), (.guestGdtrLimit, gdtr.limit.setWidth 64),
    (.guestIdtrBase, idtr.base), (.guestIdtrLimit, idtr.limit.setWidth 64)]
  let debugCtl ← Program.request (.readMsr Msr.debugCtl)
  let sysenterCs ← Program.request (.readMsr Msr.sysenterCs)
  let sysenterEsp ← Program.request (.readMsr Msr.sysenterEsp)
  let sysenterEip ← Program.request (.readMsr Msr.sysenterEip)
  writeAll [(.guestDebugCtl, debugCtl), (.guestSysenterCs, sysenterCs),
    (.guestSysenterEsp, sysenterEsp), (.guestSysenterEip, sysenterEip),
    (.guestActivity, 0), (.guestInterruptibility, 0), (.guestPendingDebug, 0),
    (.guestLinkPointer, noLinkPointer)]

/-- Writes the guest-state area as a copy of the processor. -/
def writeGuestFields : Procedure Unit := do
  copyControlRegisters .guestCr0 .guestCr3 .guestCr4
  writeGuestContext

/-- Fills the current VMCS for a virtual processor's memory. -/
def populate (memory : VcpuMemory) : Procedure Unit := do
  writeControlFields memory
  writeHostFields memory
  writeGuestFields

/-! ## Launch -/

/-- What explains a failed launch: only a failure with a current VMCS records an error number. -/
def launchError : VmFail → Program InstructionError
  | .valid => Procedure.orElse .notAvailable readInstructionError
  | .invalid => return .notAvailable

/-- What the answer to VMLAUNCH comes to. A failed launch goes on in the host with its
explanation. -/
def answerLaunch : Except VmFail Unit → Procedure Unit
  | .ok () => return ()
  | .error fail => do
      let error ← launchError fail
      Program.report (.launchFailed fail error)
      throw (.launchFailed error)

/-- Starts the guest. -/
def launch : Procedure Unit := do
  answerLaunch (← Program.request .vmlaunch)

end VtxMonitor.Vmcs
