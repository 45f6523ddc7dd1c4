import VtxMonitor.Guest.Registers
import VtxMonitor.Machine.Memory

/-!
# Machine/Assembly — the instructions of the entry points

The entry points of the monitor are straight-line code that saves registers on a stack, calls a
routine and restores them. `Instruction` holds the instructions they need and `Instruction.step`
what these do to a `Core`; `run` goes through a list of them with an `Environment` that supplies
the routines and decides about VMRESUME. Saving or restoring an XMM register at an address that is
not a multiple of 16 is a fault, and so is a call on such a stack, since called code relies on the
alignment.
-/

namespace VtxMonitor

/-- The state of a processor core that straight-line code sees. -/
structure Core where
  gpr : Register → Word
  xmm : Fin 16 → BitVec 128
  memory : Memory

namespace Core

/-- The stack pointer. -/
def rsp (core : Core) : Word := core.gpr .rsp

/-- Replaces a general-purpose register. -/
def setGpr (core : Core) (r : Register) (value : Word) : Core :=
  { core with gpr := fun s => if s = r then value else core.gpr s }

/-- Replaces an XMM register. -/
def setXmm (core : Core) (i : Fin 16) (value : BitVec 128) : Core :=
  { core with xmm := fun j => if j = i then value else core.xmm j }

/-- Pushes a word. -/
def push (core : Core) (value : Word) : Core :=
  { core.setGpr .rsp (core.rsp - 8) with memory := core.memory.store (core.rsp - 8) value }

/-- The word that lies at an offset above the stack pointer. -/
def atStack (core : Core) (offset : Word) : Word := core.memory.load (core.rsp + offset)

end Core

/-- Whether an address is a multiple of 16. -/
def isAligned16 (address : Word) : Bool := address &&& 0xf = 0

/-- An instruction that goes on with the next one. Offsets count from the stack pointer. -/
inductive Instruction where
  | pushValue (value : Word)
  | push (r : Register)
  | pop (r : Register)
  /-- Saves a register at an offset. -/
  | save (offset : Word) (r : Register)
  /-- Stores zero at an offset. -/
  | saveZero (offset : Word)
  /-- Restores a register from an offset. -/
  | restore (r : Register) (offset : Word)
  /-- Puts the address of an offset into a register. -/
  | addressOf (r : Register) (offset : Word)
  /-- Copies a register. -/
  | move (target source : Register)
  /-- Moves the stack pointer down. -/
  | reserve (size : Word)
  /-- Moves the stack pointer up. -/
  | free (size : Word)
  /-- Moves the stack pointer down to a multiple of 16. -/
  | align
  /-- Saves an XMM register at an aligned offset. -/
  | saveXmm (offset : Word) (i : Fin 16)
  /-- Restores an XMM register from an aligned offset. -/
  | restoreXmm (i : Fin 16) (offset : Word)
deriving DecidableEq

namespace Instruction

/-- What an instruction does; nothing for a fault. -/
def step (core : Core) : Instruction → Option Core
  | .pushValue value => some (core.push value)
  | .push r => some (core.push (core.gpr r))
  | .pop r => some ((core.setGpr .rsp (core.rsp + 8)).setGpr r (core.atStack 0))
  | .save offset r =>
      some { core with memory := core.memory.store (core.rsp + offset) (core.gpr r) }
  | .saveZero offset => some { core with memory := core.memory.store (core.rsp + offset) 0 }
  | .restore r offset => some (core.setGpr r (core.atStack offset))
  | .addressOf r offset => some (core.setGpr r (core.rsp + offset))
  | .move target source => some (core.setGpr target (core.gpr source))
  | .reserve size => some (core.setGpr .rsp (core.rsp - size))
  | .free size => some (core.setGpr .rsp (core.rsp + size))
  | .align => some (core.setGpr .rsp (core.rsp &&& ~~~0xf))
  | .saveXmm offset i =>
      if isAligned16 (core.rsp + offset) then
        some { core with memory := core.memory.storeWide (core.rsp + offset) (core.xmm i) }
      else none
  | .restoreXmm i offset =>
      if isAligned16 (core.rsp + offset) then
        some (core.setXmm i (core.memory.loadWide (core.rsp + offset)))
      else none

end Instruction

/-- A step of an entry point. Routines are named by `ρ`. -/
inductive CodeStep (ρ : Type) where
  | plain (instruction : Instruction)
  | call (routine : ρ)
  /-- Enters the guest, or goes on if that fails. -/
  | vmresume
  /-- Returns to the interrupted code. -/
  | iretq

/-- The code of an entry point. -/
abbrev Code (ρ : Type) := List (CodeStep ρ)

/-- Straight-line code. -/
def Code.plain {ρ : Type} (instructions : List Instruction) : Code ρ := instructions.map .plain

/-- What surrounds an entry point, with a state of type `σ`. -/
structure Environment (ρ σ : Type) where
  /-- Calls a routine: the core after its return, if it returns. -/
  call : ρ → Core → σ → Option Core × σ
  /-- Executes VMRESUME: whether it enters the guest. -/
  resume : σ → Bool × σ

/-- How the code of an entry point ends. -/
inductive Ending where
  /-- In the guest, which VMRESUME entered with this core. -/
  | guest (core : Core)
  /-- At an IRETQ that is executed with this core. -/
  | interrupted (core : Core)
  /-- In a routine that does not return. -/
  | halted
  /-- At an access or a call that is not aligned. -/
  | fault
  /-- Behind the last instruction. -/
  | beyond (core : Core)

/-- Runs the code of an entry point. -/
def Code.run {ρ σ : Type} (env : Environment ρ σ) : Code ρ → Core → σ → Ending × σ
  | [], core, s => (.beyond core, s)
  | .plain instruction :: rest, core, s =>
      match instruction.step core with
      | none => (.fault, s)
      | some core => Code.run env rest core s
  | .call routine :: rest, core, s =>
      if isAligned16 core.rsp then
        match env.call routine core s with
        | (none, s) => (.halted, s)
        | (some core, s) => Code.run env rest core s
      else (.fault, s)
  | .vmresume :: rest, core, s =>
      match env.resume s with
      | (true, s) => (.guest core, s)
      | (false, s) => Code.run env rest core s
  | .iretq :: _, core, s => (.interrupted core, s)

end VtxMonitor
