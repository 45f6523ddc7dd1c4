import VtxMonitor.Word.Flag

/-!
# Control/Flags — the named bits of the control words and of the feature-control MSR

One list per word, in ascending bit order. Bits that no list names are undefined.
-/

namespace VtxMonitor

namespace FeatureControl

/-- The MSR can no longer be written until the next reset. -/
def locked : Flag 64 := ⟨"LOCKED", 0⟩
def vmxInsideSmx : Flag 64 := ⟨"VMX_INSIDE_SMX", 1⟩
/-- VMXON is allowed outside of SMX operation. -/
def vmxOutsideSmx : Flag 64 := ⟨"VMX_OUTSIDE_SMX", 2⟩

/-- The bits of IA32_FEATURE_CONTROL that matter for VMX. -/
def flags : List (Flag 64) := [locked, vmxInsideSmx, vmxOutsideSmx]

end FeatureControl

namespace PinBasedControls

def externalInterruptExiting : Flag 32 := ⟨"EXTERNAL_INTERRUPT_EXITING", 0⟩
def nmiExiting : Flag 32 := ⟨"NMI_EXITING", 3⟩
def virtualNmis : Flag 32 := ⟨"VIRTUAL_NMIS", 5⟩
def vmxPreemptionTimer : Flag 32 := ⟨"VMX_PREEMPTION_TIMER", 6⟩
def postedInterrupts : Flag 32 := ⟨"POSTED_INTERRUPTS", 7⟩

/-- The pin-based VM-execution controls. -/
def flags : List (Flag 32) :=
  [externalInterruptExiting, nmiExiting, virtualNmis, vmxPreemptionTimer, postedInterrupts]

end PinBasedControls

namespace PrimaryControls

def interruptWindowExiting : Flag 32 := ⟨"INTERRUPT_WINDOW_EXITING", 2⟩
def useTscOffsetting : Flag 32 := ⟨"USE_TSC_OFFSETTING", 3⟩
def hltExiting : Flag 32 := ⟨"HLT_EXITING", 7⟩
def invlpgExiting : Flag 32 := ⟨"INVLPG_EXITING", 9⟩
def mwaitExiting : Flag 32 := ⟨"MWAIT_EXITING", 10⟩
def rdpmcExiting : Flag 32 := ⟨"RDPMC_EXITING", 11⟩
def rdtscExiting : Flag 32 := ⟨"RDTSC_EXITING", 12⟩
def cr3LoadExiting : Flag 32 := ⟨"CR3_LOAD_EXITING", 15⟩
def cr3StoreExiting : Flag 32 := ⟨"CR3_STORE_EXITING", 16⟩
def cr8LoadExiting : Flag 32 := ⟨"CR8_LOAD_EXITING", 19⟩
def cr8StoreExiting : Flag 32 := ⟨"CR8_STORE_EXITING", 20⟩
def useTprShadow : Flag 32 := ⟨"USE_TPR_SHADOW", 21⟩
def nmiWindowExiting : Flag 32 := ⟨"NMI_WINDOW_EXITING", 22⟩
def movDrExiting : Flag 32 := ⟨"MOV_DR_EXITING", 23⟩
def uncondIoExiting : Flag 32 := ⟨"UNCOND_IO_EXITING", 24⟩
def useIoBitmaps : Flag 32 := ⟨"USE_IO_BITMAPS", 25⟩
def monitorTrapFlag : Flag 32 := ⟨"MONITOR_TRAP_FLAG", 27⟩
def useMsrBitmaps : Flag 32 := ⟨"USE_MSR_BITMAPS", 28⟩
def monitorExiting : Flag 32 := ⟨"MONITOR_EXITING", 29⟩
def pauseExiting : Flag 32 := ⟨"PAUSE_EXITING", 30⟩
def secondaryControls : Flag 32 := ⟨"SECONDARY_CONTROLS", 31⟩

/-- The primary processor-based VM-execution controls. -/
def flags : List (Flag 32) :=
  [interruptWindowExiting, useTscOffsetting, hltExiting, invlpgExiting, mwaitExiting,
    rdpmcExiting, rdtscExiting, cr3LoadExiting, cr3StoreExiting, cr8LoadExiting,
    cr8StoreExiting, useTprShadow, nmiWindowExiting, movDrExiting, uncondIoExiting,
    useIoBitmaps, monitorTrapFlag, useMsrBitmaps, monitorExiting, pauseExiting,
    secondaryControls]

end PrimaryControls

namespace SecondaryControls

def virtualizeApic : Flag 32 := ⟨"VIRTUALIZE_APIC", 0⟩
def enableEpt : Flag 32 := ⟨"ENABLE_EPT", 1⟩
def dtableExiting : Flag 32 := ⟨"DTABLE_EXITING", 2⟩
def enableRdtscp : Flag 32 := ⟨"ENABLE_RDTSCP", 3⟩
def virtualizeX2apic : Flag 32 := ⟨"VIRTUALIZE_X2APIC", 4⟩
def enableVpid : Flag 32 := ⟨"ENABLE_VPID", 5⟩
def wbinvdExiting : Flag 32 := ⟨"WBINVD_EXITING", 6⟩
def unrestrictedGuest : Flag 32 := ⟨"UNRESTRICTED_GUEST", 7⟩
def enableInvpcid : Flag 32 := ⟨"ENABLE_INVPCID", 12⟩
def enableVmFunctions : Flag 32 := ⟨"ENABLE_VM_FUNCTIONS", 13⟩
def concealVmxFromPt : Flag 32 := ⟨"CONCEAL_VMX_FROM_PT", 19⟩
def enableXsavesXrstors : Flag 32 := ⟨"ENABLE_XSAVES_XRSTORS", 20⟩
def enableUserWaitPause : Flag 32 := ⟨"ENABLE_USER_WAIT_PAUSE", 26⟩

/-- The secondary processor-based VM-execution controls. -/
def flags : List (Flag 32) :=
  [virtualizeApic, enableEpt, dtableExiting, enableRdtscp, virtualizeX2apic, enableVpid,
    wbinvdExiting, unrestrictedGuest, enableInvpcid, enableVmFunctions, concealVmxFromPt,
    enableXsavesXrstors, enableUserWaitPause]

end SecondaryControls

namespace ExitControls

def saveDebugControls : Flag 32 := ⟨"SAVE_DEBUG_CONTROLS", 2⟩
def hostAddressSpaceSize : Flag 32 := ⟨"HOST_ADDRESS_SPACE_SIZE", 9⟩
def ackInterruptOnExit : Flag 32 := ⟨"ACK_INTERRUPT_ON_EXIT", 15⟩
def savePat : Flag 32 := ⟨"SAVE_IA32_PAT", 18⟩
def loadPat : Flag 32 := ⟨"LOAD_IA32_PAT", 19⟩
def saveEfer : Flag 32 := ⟨"SAVE_IA32_EFER", 20⟩
def loadEfer : Flag 32 := ⟨"LOAD_IA32_EFER", 21⟩
def concealVmxFromPt : Flag 32 := ⟨"CONCEAL_VMX_FROM_PT", 24⟩

/-- The VM-exit controls. -/
def flags : List (Flag 32) :=
  [saveDebugControls, hostAddressSpaceSize, ackInterruptOnExit, savePat, loadPat, saveEfer,
    loadEfer, concealVmxFromPt]

end ExitControls

namespace EntryControls

def loadDebugControls : Flag 32 := ⟨"LOAD_DEBUG_CONTROLS", 2⟩
def ia32eModeGuest : Flag 32 := ⟨"IA32E_MODE_GUEST", 9⟩
def entryToSmm : Flag 32 := ⟨"ENTRY_TO_SMM", 10⟩
def loadPat : Flag 32 := ⟨"LOAD_IA32_PAT", 14⟩
def loadEfer : Flag 32 := ⟨"LOAD_IA32_EFER", 15⟩
def concealVmxFromPt : Flag 32 := ⟨"CONCEAL_VMX_FROM_PT", 17⟩

/-- The VM-entry controls. -/
def flags : List (Flag 32) :=
  [loadDebugControls, ia32eModeGuest, entryToSmm, loadPat, loadEfer, concealVmxFromPt]

end EntryControls

end VtxMonitor
