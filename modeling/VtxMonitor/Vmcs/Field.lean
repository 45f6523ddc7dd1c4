import VtxMonitor.Word.Field

/-!
# Vmcs/Field — encodings of the VMCS fields

The control, exit-information, guest-state and host-state fields the monitor uses, by the encodings
of the processor manual.
-/

namespace VtxMonitor.Vmcs

/-- The encoding of a VMCS field. -/
abbrev Field := BitVec 32

namespace Field

/-! ## Control fields -/

def msrBitmapAddress : Field := 0x2004
def exitMsrStoreAddress : Field := 0x2006
def exitMsrLoadAddress : Field := 0x2008
def entryMsrLoadAddress : Field := 0x200a
def pinBasedControls : Field := 0x4000
def primaryControls : Field := 0x4002
def exceptionBitmap : Field := 0x4004
def pageFaultMask : Field := 0x4006
def pageFaultMatch : Field := 0x4008
def cr3TargetCount : Field := 0x400a
def exitControls : Field := 0x400c
def exitMsrStoreCount : Field := 0x400e
def exitMsrLoadCount : Field := 0x4010
def entryControls : Field := 0x4012
def entryMsrLoadCount : Field := 0x4014
def entryInterruption : Field := 0x4016
def entryErrorCode : Field := 0x4018
def entryInstructionLength : Field := 0x401a
def secondaryControls : Field := 0x401e
def cr0Mask : Field := 0x6000
def cr4Mask : Field := 0x6002
def cr0Shadow : Field := 0x6004
def cr4Shadow : Field := 0x6006
def cr3Target0 : Field := 0x6008
def cr3Target1 : Field := 0x600a
def cr3Target2 : Field := 0x600c
def cr3Target3 : Field := 0x600e

/-! ## Exit information, which software cannot write -/

def instructionError : Field := 0x4400
def exitReason : Field := 0x4402
def exitInterruption : Field := 0x4404
def exitErrorCode : Field := 0x4406
def exitInstructionLength : Field := 0x440c
def exitQualification : Field := 0x6400

/-! ## Guest state -/

def guestEsSelector : Field := 0x800
def guestCsSelector : Field := 0x802
def guestSsSelector : Field := 0x804
def guestDsSelector : Field := 0x806
def guestFsSelector : Field := 0x808
def guestGsSelector : Field := 0x80a
def guestLdtrSelector : Field := 0x80c
def guestTrSelector : Field := 0x80e
def guestLinkPointer : Field := 0x2800
def guestDebugCtl : Field := 0x2802
def guestEsLimit : Field := 0x4800
def guestCsLimit : Field := 0x4802
def guestSsLimit : Field := 0x4804
def guestDsLimit : Field := 0x4806
def guestFsLimit : Field := 0x4808
def guestGsLimit : Field := 0x480a
def guestLdtrLimit : Field := 0x480c
def guestTrLimit : Field := 0x480e
def guestGdtrLimit : Field := 0x4810
def guestIdtrLimit : Field := 0x4812
def guestEsRights : Field := 0x4814
def guestCsRights : Field := 0x4816
def guestSsRights : Field := 0x4818
def guestDsRights : Field := 0x481a
def guestFsRights : Field := 0x481c
def guestGsRights : Field := 0x481e
def guestLdtrRights : Field := 0x4820
def guestTrRights : Field := 0x4822
def guestInterruptibility : Field := 0x4824
def guestActivity : Field := 0x4826
def guestSysenterCs : Field := 0x482a
def guestCr0 : Field := 0x6800
def guestCr3 : Field := 0x6802
def guestCr4 : Field := 0x6804
def guestEsBase : Field := 0x6806
def guestCsBase : Field := 0x6808
def guestSsBase : Field := 0x680a
def guestDsBase : Field := 0x680c
def guestFsBase : Field := 0x680e
def guestGsBase : Field := 0x6810
def guestLdtrBase : Field := 0x6812
def guestTrBase : Field := 0x6814
def guestGdtrBase : Field := 0x6816
def guestIdtrBase : Field := 0x6818
def guestDr7 : Field := 0x681a
def guestRsp : Field := 0x681c
def guestRip : Field := 0x681e
def guestRflags : Field := 0x6820
def guestPendingDebug : Field := 0x6822
def guestSysenterEsp : Field := 0x6824
def guestSysenterEip : Field := 0x6826

/-! ## Host state -/

def hostEsSelector : Field := 0xc00
def hostCsSelector : Field := 0xc02
def hostSsSelector : Field := 0xc04
def hostDsSelector : Field := 0xc06
def hostFsSelector : Field := 0xc08
def hostGsSelector : Field := 0xc0a
def hostTrSelector : Field := 0xc0c
def hostSysenterCs : Field := 0x4c00
def hostCr0 : Field := 0x6c00
def hostCr3 : Field := 0x6c02
def hostCr4 : Field := 0x6c04
def hostFsBase : Field := 0x6c06
def hostGsBase : Field := 0x6c08
def hostTrBase : Field := 0x6c0a
def hostGdtrBase : Field := 0x6c0c
def hostIdtrBase : Field := 0x6c0e
def hostSysenterEsp : Field := 0x6c10
def hostSysenterEip : Field := 0x6c12
def hostRsp : Field := 0x6c14
def hostRip : Field := 0x6c16

end Field

end VtxMonitor.Vmcs
