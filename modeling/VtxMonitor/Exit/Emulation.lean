import VtxMonitor.Exit.Handler
import VtxMonitor.Interruption.Delivery

/-!
# Exit/Emulation — the handlers that keep a guest running as a copy of the host

CPUID, RDMSR and WRMSR are executed on behalf of the guest; accesses to CR0, CR3 and CR4 act on the
guest-state fields of the VMCS; exceptions and non-maskable interrupts are passed on to the guest.
`ExitHandlers.defaults` registers them.
-/

namespace VtxMonitor.Emulation

/-! ## Instructions executed for the guest -/

/-- CPUID: the answer replaces the four registers, upper halves included. -/
def cpuid : ExitHandler := do
  let regs ← get
  let result ← Program.request (.cpuid (regs.low .rax) (regs.low .rcx))
  set ((((regs.set .rax (result.eax.setWidth 64)).set .rbx (result.ebx.setWidth 64)).set .rcx
    (result.ecx.setWidth 64)).set .rdx (result.edx.setWidth 64))
  return .incrementRip

/-- RDMSR: the MSR numbered by `ecx` is split into `edx:eax`. -/
def rdmsr : ExitHandler := do
  let regs ← get
  let msr := regs.low .rcx
  let value ← Program.request (.readMsr msr)
  Program.report (.readMsr msr value)
  set (regs.setEdxEax value)
  return .incrementRip

/-- WRMSR: `edx:eax` goes into the MSR numbered by `ecx`. -/
def wrmsr : ExitHandler := do
  let regs ← get
  let msr := regs.low .rcx
  let value := regs.edxEax
  Program.report (.wroteMsr msr value)
  Program.request (.writeMsr msr value)
  return .incrementRip

/-! ## Control-register accesses -/

/-- The content of a general-purpose register; the stack pointer of the guest is a VMCS field. -/
def readGpr (r : Register) : Emulation Word := do
  match r with
  | .rsp => Vmcs.read .guestRsp
  | r => return (← get).get r

/-- Replaces a general-purpose register. -/
def writeGpr (r : Register) (value : Word) : Emulation Unit := do
  match r with
  | .rsp => Vmcs.write .guestRsp value
  | r => modify fun regs => regs.set r value

/-- The control registers that a move can reach here, by number. -/
def movable? (number : BitVec 4) : Option ControlRegister :=
  match number.toNat with
  | 0 => some .cr0
  | 3 => some .cr3
  | 4 => some .cr4
  | _ => none

/-- The field that holds a control register of the guest. -/
def guestField : ControlRegister → Vmcs.Field
  | .cr0 => .guestCr0
  | .cr3 => .guestCr3
  | .cr4 => .guestCr4

/-- The field that holds what the guest reads back, for the registers that have one. -/
def shadowField? : ControlRegister → Option Vmcs.Field
  | .cr0 => some .cr0Shadow
  | .cr3 => none
  | .cr4 => some .cr4Shadow

/-- What a moved value becomes in a control register. In CR3, bit 63 only asks to keep the
cached mappings and is no part of the register. -/
def storedValue (register : ControlRegister) (value : Word) : Word :=
  match register with
  | .cr3 => value &&& ~~~(1#64 <<< 63)
  | .cr0 | .cr4 => value

/-- CR0.TS, which CLTS clears. -/
def cr0Ts : Word := 0x8

/-- CR0.PE, which LMSW cannot clear. -/
def cr0Pe : Word := 0x1

/-- CR0 after LMSW: bits 3:0 come from the operand, but PE stays set if it was set. -/
def loadedStatus (cr0 : Word) (source : BitVec 16) : Word :=
  (cr0 &&& ~~~0xf) ||| (source.setWidth 64 &&& 0xf) ||| (cr0 &&& cr0Pe)

/-- Writes a control register of the guest and its shadow. -/
def writeControlRegister (register : ControlRegister) (value : Word) : Procedure Unit := do
  Vmcs.write (guestField register) value
  match shadowField? register with
  | some shadow => Vmcs.write shadow value
  | none => pure ()

/-- MOV to and from CR0, CR3 and CR4, CLTS and LMSW. Moves with other control registers are reported
and skipped. -/
def movCr : ExitHandler := do
  let access : ControlAccess := ⟨← Vmcs.read .exitQualification⟩
  let gpr := Register.ofNumber access.gpr
  match access.accessType.toNat with
  | 0 =>
      match movable? access.register with
      | none => Program.report (.unsupportedMovToCr access)
      | some register => do
          let value ← readGpr gpr
          writeControlRegister register (storedValue register value)
  | 1 =>
      match movable? access.register with
      | none => Program.report (.unsupportedMovFromCr access)
      | some register => do
          let value ← Vmcs.read (guestField register)
          writeGpr gpr value
  | 2 => do
      let cr0 ← Vmcs.read .guestCr0
      writeControlRegister .cr0 (cr0 &&& ~~~cr0Ts)
  | _ => do
      let cr0 ← Vmcs.read .guestCr0
      writeControlRegister .cr0 (loadedStatus cr0 access.lmswSource)
  return .incrementRip

/-! ## Events -/

/-- Exceptions are delivered to the guest again, non-maskable interrupts are remembered for it. -/
def exceptionOrNmi : ExitHandler := do
  let info ← ExitInterruption.read
  info.forward
  return .resume

/-- The guest can take a non-maskable interrupt: the remembered one is delivered. -/
def nmiWindow : ExitHandler := do
  NmiWindow.deliver
  return .resume

end Emulation

/-- The registry with the handlers above. -/
def ExitHandlers.defaults : ExitHandlers :=
  ExitHandlers.empty
    |>.insert .movCr Emulation.movCr
    |>.insert .cpuid Emulation.cpuid
    |>.insert .rdmsr Emulation.rdmsr
    |>.insert .wrmsr Emulation.wrmsr
    |>.insert .exceptionOrNmi Emulation.exceptionOrNmi
    |>.insert .nmiWindow Emulation.nmiWindow

end VtxMonitor
