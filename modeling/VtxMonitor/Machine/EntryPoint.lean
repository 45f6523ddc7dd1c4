import VtxMonitor.Machine.Assembly

/-!
# Machine/EntryPoint — the code at the entry points of the monitor

`exitEntry` is entered at a VM-exit, with the stack pointer 8 below a multiple of 16 and the
pointer to the virtual processor right above it. `interruptEntry` is entered when an interrupt
arrives while the monitor runs, with whatever stack pointer the interrupted code had. Both save
the registers that a routine may change, call the routine on an aligned stack and restore what
they saved.
-/

namespace VtxMonitor

/-- The routines that the entry points call. -/
inductive Routine where
  /-- Handles a VM-exit: `rdi` points to the virtual processor, `rsi` to the guest's registers. -/
  | handleExit
  /-- Runs when VMRESUME failed. -/
  | resumeFailed
  /-- Handles an interrupt: `rdi` points to the trap frame. -/
  | handleInterrupt
deriving DecidableEq

/-- All XMM registers. -/
def xmmRegisters : List (Fin 16) := List.finRange 16

/-- The offset at which an XMM register is saved. -/
def xmmOffset (i : Fin 16) : Word := BitVec.ofNat 64 (16 * i.val)

/-- The size of the area in which the XMM registers are saved. -/
def xmmAreaSize : Word := 0x100

/-- Saves the XMM registers at the stack pointer. -/
def saveXmmRegisters : List Instruction := xmmRegisters.map fun i => .saveXmm (xmmOffset i) i

/-- Restores the XMM registers from the stack pointer. -/
def restoreXmmRegisters : List Instruction :=
  xmmRegisters.map fun i => .restoreXmm i (xmmOffset i)

/-! ## The VM-exit entry point -/

/-- The size of the guest's registers in memory. -/
def guestRegistersSize : Word := 0x80

/-- The offset at which a register of the guest is saved. -/
def savedOffset : Register → Word
  | .rax => 0x00
  | .rcx => 0x08
  | .rdx => 0x10
  | .rbx => 0x18
  | .rsp => 0x20
  | .rbp => 0x28
  | .rsi => 0x30
  | .rdi => 0x38
  | .r8 => 0x40
  | .r9 => 0x48
  | .r10 => 0x50
  | .r11 => 0x58
  | .r12 => 0x60
  | .r13 => 0x68
  | .r14 => 0x70
  | .r15 => 0x78

/-- The XMM area and what aligns the stack below the guest's registers. -/
def exitXmmFrame : Word := xmmAreaSize + 8

/-- The offset of the pointer to the virtual processor when everything is saved. -/
def vcpuPointerOffset : Word := exitXmmFrame + guestRegistersSize + 8

/-- Saves a register of the guest. The slot of the stack pointer is zero, because the guest's is a
VMCS field. -/
def saveGuestRegister (r : Register) : Instruction :=
  if r = .rsp then .saveZero (savedOffset r) else .save (savedOffset r) r

/-- The registers that are restored for the guest. -/
def restoredRegisters : List Register := Register.all.filter fun r => r ≠ .rsp

/-- Saves the guest's registers and prepares the call. -/
def exitPrologue : List Instruction :=
  [.reserve guestRegistersSize] ++ Register.all.map saveGuestRegister ++
    [.reserve exitXmmFrame] ++ saveXmmRegisters ++
    [.restore .rdi vcpuPointerOffset, .addressOf .rsi exitXmmFrame]

/-- Restores the guest's registers. -/
def exitEpilogue : List Instruction :=
  restoreXmmRegisters ++ [.free exitXmmFrame] ++
    restoredRegisters.map (fun r => .restore r (savedOffset r)) ++ [.free guestRegistersSize]

/-- The code at the VM-exit entry point. Behind a failed VMRESUME the stack is aligned again for
the last call. -/
def exitEntry : Code Routine :=
  Code.plain exitPrologue ++ [.call .handleExit] ++ Code.plain exitEpilogue ++
    [.vmresume, .plain (.reserve 8), .call .resumeFailed]

/-! ## The interrupt entry points -/

/-- Whether the entry of a vector expects an error code on the stack. -/
def expectsErrorCode (vector : BitVec 8) : Bool :=
  vector == 8 || (vector ≥ 10 && vector ≤ 14) || vector == 17 || vector == 21 || vector == 29 ||
    vector == 30

/-- What the entry of a vector pushes: a zero in place of an error code that it does not expect, and
the vector. -/
def entryPushes (vector : BitVec 8) : List Word :=
  (if expectsErrorCode vector then [] else [0]) ++ [vector.setWidth 64]

/-- The registers that a called routine may change, and `rbp`, which keeps the stack pointer; in the
order in which they are pushed. -/
def interruptSaved : List Register :=
  [.rbp, .rax, .rcx, .rdx, .rsi, .rdi, .r8, .r9, .r10, .r11]

/-- The offset of the trap frame when those registers are pushed. -/
def trapFrameOffset : Word := 0x50

/-- Completes the trap frame, saves registers and prepares the call. -/
def interruptPrologue (vector : BitVec 8) : List Instruction :=
  (entryPushes vector).map .pushValue ++ interruptSaved.map .push ++
    [.addressOf .rdi trapFrameOffset, .move .rbp .rsp, .align, .reserve xmmAreaSize] ++
    saveXmmRegisters

/-- Restores the registers and drops vector and error code. -/
def interruptEpilogue : List Instruction :=
  restoreXmmRegisters ++ [.move .rsp .rbp] ++ interruptSaved.reverse.map .pop ++ [.free 0x10]

/-- The code at the entry point of an interrupt vector. -/
def interruptEntry (vector : BitVec 8) : Code Routine :=
  Code.plain (interruptPrologue vector) ++ [.call .handleInterrupt] ++
    Code.plain interruptEpilogue ++ [.iretq]

/-! ## The table of interrupt entry points

Only the pushes of `entryPushes` differ from vector to vector. They stand in a table, and the entry
of each vector ends with a jump to the code that all of them share. -/

/-- The size of a push of a value. The short form extends the sign of a single byte. -/
def pushSize (value : Word) : Nat := if value < 0x80 then 2 else 5

/-- The size of the pushes in the entry of a vector. -/
def entryPushesSize (vector : BitVec 8) : Nat :=
  (entryPushes vector).foldl (fun size value => size + pushSize value) 0

/-- The first multiple of 16 that is not below an address. -/
def alignUp16 (address : Nat) : Nat := (address + 15) / 16 * 16

/-- The address of the `n`-th entry of a table, given the sizes of the jumps, which depend on how far
they lead: each entry starts at the first multiple of 16 behind the one before it. -/
def entryAddress (table : Nat) (jumpSize : Nat → Nat) : Nat → Nat
  | 0 => alignUp16 table
  | n + 1 =>
      alignUp16
        (entryAddress table jumpSize n + entryPushesSize (BitVec.ofNat 8 n) + jumpSize n)

end VtxMonitor
