import VtxMonitor.Word.Field

/-!
# Guest/Registers — the general-purpose registers of the guest

The registers saved at a VM-exit, in the order of the numbers that instructions and exit
qualifications use for them. The slot of `rsp` is a placeholder: the guest stack pointer is a VMCS
field.
-/

namespace VtxMonitor

open Text (Dump)

/-- A general-purpose register. -/
inductive Register where
  | rax | rcx | rdx | rbx | rsp | rbp | rsi | rdi
  | r8 | r9 | r10 | r11 | r12 | r13 | r14 | r15
deriving DecidableEq

namespace Register

/-- All registers in the order of their numbers. -/
def all : List Register :=
  [.rax, .rcx, .rdx, .rbx, .rsp, .rbp, .rsi, .rdi,
    .r8, .r9, .r10, .r11, .r12, .r13, .r14, .r15]

/-- The number of a register in instruction encodings. -/
def number : Register → BitVec 4
  | .rax => 0 | .rcx => 1 | .rdx => 2 | .rbx => 3
  | .rsp => 4 | .rbp => 5 | .rsi => 6 | .rdi => 7
  | .r8 => 8 | .r9 => 9 | .r10 => 10 | .r11 => 11
  | .r12 => 12 | .r13 => 13 | .r14 => 14 | .r15 => 15

/-- The register with a number. -/
def ofNumber (n : BitVec 4) : Register :=
  match n.toNat with
  | 0 => .rax | 1 => .rcx | 2 => .rdx | 3 => .rbx
  | 4 => .rsp | 5 => .rbp | 6 => .rsi | 7 => .rdi
  | 8 => .r8 | 9 => .r9 | 10 => .r10 | 11 => .r11
  | 12 => .r12 | 13 => .r13 | 14 => .r14 | _ => .r15

/-- The name of a register. -/
def label : Register → String
  | .rax => "rax" | .rcx => "rcx" | .rdx => "rdx" | .rbx => "rbx"
  | .rsp => "rsp" | .rbp => "rbp" | .rsi => "rsi" | .rdi => "rdi"
  | .r8 => "r8" | .r9 => "r9" | .r10 => "r10" | .r11 => "r11"
  | .r12 => "r12" | .r13 => "r13" | .r14 => "r14" | .r15 => "r15"

/-- The register with a name. -/
def ofLabel? (label : String) : Option Register := all.find? fun r => r.label = label

theorem ofNumber_number (r : Register) : ofNumber r.number = r := by cases r <;> rfl

end Register

/-- The contents of the general-purpose registers. -/
@[ext]
structure GuestRegisters where
  get : Register → Word

namespace GuestRegisters

/-- All registers zero. -/
def zero : GuestRegisters := ⟨fun _ => 0⟩

/-- Replaces the content of one register. -/
def set (regs : GuestRegisters) (r : Register) (value : Word) : GuestRegisters :=
  ⟨fun s => if s = r then value else regs.get s⟩

@[simp]
theorem get_set_self (regs : GuestRegisters) (r : Register) (value : Word) :
    (regs.set r value).get r = value := by simp [set]

theorem get_set_of_ne (regs : GuestRegisters) {r s : Register} (value : Word) (h : s ≠ r) :
    (regs.set r value).get s = regs.get s := by simp [set, h]

/-- Replaces the contents of several registers in order. -/
def setAll (regs : GuestRegisters) (values : List (Register × Word)) : GuestRegisters :=
  values.foldl (fun regs value => regs.set value.1 value.2) regs

/-- The low 32 bits of a register. -/
def low (regs : GuestRegisters) (r : Register) : BitVec 32 := (regs.get r).setWidth 32

/-- `edx:eax` as one value; the upper halves of both registers do not count. -/
def edxEax (regs : GuestRegisters) : Word := regs.low .rdx ++ regs.low .rax

/-- Splits a value into `edx:eax`; the upper halves of both registers become zero. -/
def setEdxEax (regs : GuestRegisters) (value : Word) : GuestRegisters :=
  (regs.set .rax ((value.extractLsb' 0 32).setWidth 64)).set .rdx
    ((value.extractLsb' 32 32).setWidth 64)

/-- The dump of the registers in the order of their numbers. -/
def dump (regs : GuestRegisters) : Dump :=
  .record "GuestRegisters" (Register.all.map fun r => (r.label, .number (regs.get r).toNat))

end GuestRegisters

end VtxMonitor
