import VtxMonitor.Word.Field

/-!
# Msr/Number — the model-specific registers the monitor knows by name

Numbers from the processor manual. The `true…Ctls` registers report control settings without the
historical default-1 bits and exist only where IA32_VMX_BASIC says so.
-/

namespace VtxMonitor.Msr

/-- The number of a model-specific register. -/
abbrev Number := BitVec 32

def featureControl : Number := 0x3a
def sysenterCs : Number := 0x174
def sysenterEsp : Number := 0x175
def sysenterEip : Number := 0x176
def debugCtl : Number := 0x1d9
def vmxBasic : Number := 0x480
def pinBasedCtls : Number := 0x481
def procBasedCtls : Number := 0x482
def exitCtls : Number := 0x483
def entryCtls : Number := 0x484
def cr0Fixed0 : Number := 0x486
def cr0Fixed1 : Number := 0x487
def cr4Fixed0 : Number := 0x488
def cr4Fixed1 : Number := 0x489
def procBasedCtls2 : Number := 0x48b
def eptVpidCap : Number := 0x48c
def truePinBasedCtls : Number := 0x48d
def trueProcBasedCtls : Number := 0x48e
def trueExitCtls : Number := 0x48f
def trueEntryCtls : Number := 0x490
def fsBase : Number := 0xc0000100
def gsBase : Number := 0xc0000101

end VtxMonitor.Msr
