import VtxMonitor.Exit.Emulation
import VtxMonitor.Host.Preparation
import VtxMonitor.Control.Support
import VtxMonitor.Vmcs.Population

/-!
# Vcpu/Basic — bringing one processor under the monitor

A `Vcpu` belongs to one processor. `virtualize` checks the processor, adjusts its control
registers, enters VMX operation, loads the VMCS, prepares host stack and tables, fills the VMCS
and launches the guest. The stage records how far that got, and on failure `teardown` undoes
exactly the steps it implies, in reverse order. A launched virtual processor is never torn down.
-/

namespace VtxMonitor

/-- A virtual processor. -/
structure Vcpu where
  index : BitVec 32
  /-- Its own address, which the host stack keeps for the VM-exit entry point. -/
  address : Word
  stage : Stage := .off
  /-- CR0 before it was adjusted for VMX operation. -/
  savedCr0 : Word := 0
  /-- CR4 before it was adjusted for VMX operation. -/
  savedCr4 : Word := 0
  memory : VcpuMemory
  handlers : ExitHandlers
  intercepts : MsrIntercepts

namespace Vcpu

/-- A virtual processor in stage `off` with fresh memory at `base`. -/
def fresh (index : BitVec 32) (address base : Word) (handlers : ExitHandlers)
    (intercepts : MsrIntercepts) : Vcpu :=
  { index, address, memory := .fresh base, handlers, intercepts }

/-- Takes a slot for a virtual processor: its memory comes first, its own record lies behind. -/
def allocate (index : BitVec 32) (handlers : ExitHandlers) (intercepts : MsrIntercepts)
    (arena : Arena) : Vcpu × Arena :=
  let (base, arena) := arena.allocate
  (fresh index (base + VcpuMemory.size) base handlers intercepts, arena)

/-- Records a stage. -/
def enter (stage : Stage) : Owned Vcpu Unit := modify fun vcpu => { vcpu with stage }

/-! ## Bring-up -/

/-- A control register with every bit set that must be 1 and every bit cleared that must be 0. -/
def fixedBits (value fixed0 fixed1 : Word) : Word := (value ||| fixed0) &&& fixed1

/-- IA32_FEATURE_CONTROL locked, with VMX allowed outside of SMX. -/
def lockedFeatureControl (value : Word) : Word :=
  value ||| Flag.union [FeatureControl.locked, FeatureControl.vmxOutsideSmx]

/-- Gives CR0 and CR4 the bits that VMXON demands, and enables interrupts again. -/
def adjustControlRegisters : Owned Vcpu Unit := do
  let cr0 ← Program.request (.readCr .cr0)
  let cr4 ← Program.request (.readCr .cr4)
  modify fun vcpu => { vcpu with savedCr0 := cr0, savedCr4 := cr4 }
  let cr0Fixed0 ← Program.request (.readMsr Msr.cr0Fixed0)
  let cr0Fixed1 ← Program.request (.readMsr Msr.cr0Fixed1)
  let cr4Fixed0 ← Program.request (.readMsr Msr.cr4Fixed0)
  let cr4Fixed1 ← Program.request (.readMsr Msr.cr4Fixed1)
  Program.request (.writeCr .cr0 (fixedBits cr0 cr0Fixed0 cr0Fixed1))
  Program.request (.writeCr .cr4 (fixedBits (cr4 ||| cr4Vmxe) cr4Fixed0 cr4Fixed1))
  enter .vmxEnabled
  Program.request .enableInterrupts

/-- Locks IA32_FEATURE_CONTROL with VMX allowed. -/
def lockFeatureControl : Program Unit := do
  Program.report .lockingFeatureControl
  let value ← Program.request (.readMsr Msr.featureControl)
  Program.request (.writeMsr Msr.featureControl (lockedFeatureControl value))

/-- Prepares CR0, CR4 and, if it is unlocked, IA32_FEATURE_CONTROL for VMXON. Interrupts are
disabled meanwhile. -/
def enableVmx (featureControl : FeatureControlState) : Owned Vcpu Unit := do
  Program.request .disableInterrupts
  if featureControl = .unlocked then
    lockFeatureControl
  adjustControlRegisters

/-- The physical address of a region, which must be page-aligned. -/
def regionAddress (region : String) (address : Word) : Procedure Word := do
  let physical ← Procedure.physicalAddress address
  if physical.extractLsb' 0 12 = 0 then
    return physical
  else
    Program.report (.regionMisaligned region physical)
    throw (.misalignedRegion region physical)

/-- A VMX instruction whose failure is an error. -/
def instruction (label : String) (op : Program (Except VmFail Unit)) : Procedure Unit :=
  .attempt (.vmxInstruction label) op

/-- Initializes everything the VMCS points to, the MSR intercepts and the top of the host stack. -/
def prepare : Owned Vcpu Unit := do
  let vcpu ← get
  let memory ← vcpu.memory.prepareTables
  set { vcpu with memory }
  if !vcpu.intercepts.isEmpty then
    Program.report (.interceptingMsrs vcpu.intercepts)
    let msrBitmap ← vcpu.intercepts.install memory.msrBitmap
    modify fun vcpu => { vcpu with memory.msrBitmap := msrBitmap }
  modify fun vcpu =>
    { vcpu with memory.vcpuPointer := vcpu.address, memory.marker := stackMarker }

/-! ## Teardown -/

/-- Clears the VMCS. Nothing more can be done about a failure, so it is only reported. -/
def clearVmcs (memory : VcpuMemory) : Program Unit := do
  match ← (Procedure.physicalAddress memory.vmcsAddress).run with
  | .error error => Program.report (.teardownUnmapped error)
  | .ok physical =>
      match ← Program.request (.vmclear physical) with
      | .ok () => return ()
      | .error fail => Program.report (.teardownClearFailed fail)

/-- Leaves VMX operation. A failure is only reported. -/
def leaveVmx : Program Unit := do
  match ← Program.request .vmxoff with
  | .ok () => return ()
  | .error fail => Program.report (.teardownVmxoffFailed fail)

/-- Writes the saved control registers back with interrupts disabled. -/
def restoreControlRegisters (cr0 cr4 : Word) : Program Unit := do
  Program.request .disableInterrupts
  Program.request (.writeCr .cr4 cr4)
  Program.request (.writeCr .cr0 cr0)
  Program.request .enableInterrupts

/-- Undoes what was done before the VMCS was loaded. -/
def undoVmx (vcpu : Vcpu) : Program Unit := do
  if vcpu.stage.reached .vmxOn then
    leaveVmx
  if vcpu.stage.reached .vmxEnabled then
    restoreControlRegisters vcpu.savedCr0 vcpu.savedCr4
  Program.report (.toreDown vcpu.index vcpu.stage)

/-- Undoes the steps that were done, in reverse order. -/
def undo (vcpu : Vcpu) : Program Unit := do
  if vcpu.stage.reached .vmcsLoaded then
    clearVmcs vcpu.memory
  vcpu.undoVmx

/-- Undoes what was done. Nothing can be undone once the guest runs. -/
def teardown : Owned Vcpu Unit := do
  let vcpu ← get
  if vcpu.stage = .launched then
    Program.report (.runsGuest vcpu.index)
  else
    vcpu.undo
    enter .off

/-! ## The text of the calls

The steps that hand regions to the processor, and what is made of them, are written for any monad
with the effects of a call. `Fallible` runs them; what else is said about a call may need its text
itself. -/

namespace Script

universe u

variable {m : Type → Type u} [Monad m] [MonadLiftT Program m]
  [MonadLiftT (ExceptT Error Program) m] [MonadLiftT (Owned Vcpu) m] [MonadStateOf Vcpu m]
  [MonadExceptOf Error m]

/-- Stamps a region with the revision that the processor asks for, and finds its physical address. -/
def stampRegion (region : String) (stamp : BitVec 32 → VcpuMemory → VcpuMemory)
    (address : VcpuMemory → Word) : m Word := do
  let revision ← Support.revisionId
  modify fun vcpu => { vcpu with memory := stamp revision vcpu.memory }
  regionAddress region (address (← get).memory)

/-- Executes VMXON, and invalidates cached mappings that earlier VMX operation may have left. -/
def enterVmxAt (physical : Word) : m Unit := do
  instruction "VMXON" (Program.request (.vmxon physical))
  enter .vmxOn
  instruction "INVEPT" (Program.request .inveptAll)

/-- Enters VMX operation with the virtual processor's own region. -/
def enterVmx : m Unit := do
  enterVmxAt (← stampRegion "VMXON" VcpuMemory.stampVmxon VcpuMemory.vmxonAddress)

/-- Clears a VMCS and makes it current. -/
def loadVmcsAt (physical : Word) : m Unit := do
  instruction "VMCLEAR" (Program.request (.vmclear physical))
  instruction "VMPTRLD" (Program.request (.vmptrld physical))
  enter .vmcsLoaded

/-- Makes the virtual processor's own VMCS current. -/
def loadVmcs : m Unit := do
  loadVmcsAt (← stampRegion "VMCS" VcpuMemory.stampVmcs VcpuMemory.vmcsAddress)

/-- Launches the guest once the VMCS is filled. -/
def launchGuest : m Unit := do
  Program.report .wroteFields
  Vmcs.launch
  enter .launched
  Program.report (.virtualizedProcessor (← get).index)

/-- Fills the VMCS and launches the guest. -/
def fillAndLaunch : m Unit := do
  prepare
  Program.report .preparedHost
  Vmcs.populate (← get).memory
  launchGuest

/-- All steps behind the control registers. -/
def bringUpAdjusted : m Unit := do
  Program.report .enabledVmx
  enterVmx
  Program.report .enteredVmx
  loadVmcs
  Program.report .loadedVmcs
  fillAndLaunch

/-- All steps from the capability check to the launch. -/
def bringUp (featureControl : FeatureControlState) : m Unit := do
  enableVmx featureControl
  bringUpAdjusted

/-- What is done about the failure of a bring-up. -/
def giveUp (index : BitVec 32) (error : Error) : m Unit := do
  Program.report (.bringUpFailed index (← get).stage error)
  teardown
  throw error

/-- Checks the processor and brings it up; on failure every step that was done is undone. -/
def attempt (index : BitVec 32) : m Unit := do
  Program.report (.virtualizingProcessor index)
  let featureControl ← Support.check
  tryCatch (bringUp featureControl) (giveUp index)

/-- Brings the processor under the monitor, unless that was done before. -/
def virtualize : m Unit := do
  let vcpu ← get
  if vcpu.stage ≠ .off then
    throw (.alreadyVirtualized vcpu.index)
  attempt vcpu.index

end Script

/-! ## The calls -/

/-- Executes VMXON, and invalidates cached mappings that earlier VMX operation may have left. -/
abbrev enterVmx : Fallible Vcpu Unit := Script.enterVmx

/-- Makes the virtual processor's own VMCS current. -/
abbrev loadVmcs : Fallible Vcpu Unit := Script.loadVmcs

/-- All steps from the capability check to the launch. -/
abbrev bringUp (featureControl : FeatureControlState) : Fallible Vcpu Unit :=
  Script.bringUp featureControl

/-- Brings the processor under the monitor. On success the caller goes on as the guest; on failure
every step that was done is undone. -/
abbrev virtualize : Fallible Vcpu Unit := Script.virtualize

/-- Handles a VM-exit of this virtual processor. -/
def handleExit (vcpu : Vcpu) : Emulation ExitType := vcpu.handlers.dispatch

/-- Gives the virtual processor up. While the guest runs, its memory stays in use. -/
def release (vcpu : Vcpu) : Program Unit := do
  if vcpu.stage = .launched then
    Program.report (.leakingHostStructures vcpu.index)

end Vcpu

end VtxMonitor
