import VtxMonitor.Word.Field

/-!
# Exit/Reason — why a VM-exit happened

The exit-reason word holds the basic reason in its low 16 bits and flags above it; bit 31 reports
a failed VM-entry. The qualification of a control-register access says which register was accessed
how.
-/

namespace VtxMonitor

open Text (Dump)

/-- A basic exit reason. -/
structure BasicExitReason where
  code : BitVec 16
deriving DecidableEq

namespace BasicExitReason

def exceptionOrNmi : BasicExitReason := ⟨0⟩
def externalInterrupt : BasicExitReason := ⟨1⟩
def tripleFault : BasicExitReason := ⟨2⟩
def interruptWindow : BasicExitReason := ⟨7⟩
def nmiWindow : BasicExitReason := ⟨8⟩
def cpuid : BasicExitReason := ⟨10⟩
def hlt : BasicExitReason := ⟨12⟩
def invd : BasicExitReason := ⟨13⟩
def rdtsc : BasicExitReason := ⟨16⟩
def vmcall : BasicExitReason := ⟨18⟩
def movCr : BasicExitReason := ⟨28⟩
def movDr : BasicExitReason := ⟨29⟩
def ioInstruction : BasicExitReason := ⟨30⟩
def rdmsr : BasicExitReason := ⟨31⟩
def wrmsr : BasicExitReason := ⟨32⟩
def invalidGuestState : BasicExitReason := ⟨33⟩
def eptViolation : BasicExitReason := ⟨48⟩
def eptMisconfiguration : BasicExitReason := ⟨49⟩
def xsetbv : BasicExitReason := ⟨55⟩

/-- The reasons that have a name, each with it. -/
def named : List (BasicExitReason × String) :=
  [(exceptionOrNmi, "EXCEPTION_OR_NMI"), (externalInterrupt, "EXTERNAL_INTERRUPT"),
    (tripleFault, "TRIPLE_FAULT"), (interruptWindow, "INTERRUPT_WINDOW"),
    (nmiWindow, "NMI_WINDOW"), (cpuid, "CPUID"), (hlt, "HLT"), (invd, "INVD"),
    (rdtsc, "RDTSC"), (vmcall, "VMCALL"), (movCr, "MOV_CR"), (movDr, "MOV_DR"),
    (ioInstruction, "IO_INSTRUCTION"), (rdmsr, "RDMSR"), (wrmsr, "WRMSR"),
    (invalidGuestState, "INVALID_GUEST_STATE"), (eptViolation, "EPT_VIOLATION"),
    (eptMisconfiguration, "EPT_MISCONFIGURATION"), (xsetbv, "XSETBV")]

/-- The name of a reason, if it has one. -/
def label? (reason : BasicExitReason) : Option String :=
  (named.find? fun entry => entry.1 = reason).map Prod.snd

/-- The text of a reason in messages: its name, or its number. -/
def text (reason : BasicExitReason) : String :=
  reason.label?.getD ("BasicExitReason(" ++ Text.decimal reason.code.toNat ++ ")")

end BasicExitReason

/-- The exit-reason word. -/
structure ExitReason where
  bits : BitVec 32
deriving DecidableEq

namespace ExitReason

def basicField : BitField := .number "basic" 0 16
def enclaveModeField : BitField := .flag "enclave_mode" 27
def pendingMtfField : BitField := .flag "pending_mtf" 28
def exitFromRootField : BitField := .flag "exit_from_root" 29
def entryFailureField : BitField := .flag "vm_entry_failure" 31

/-- The fields of the exit reason. -/
def layout : List BitField :=
  [basicField, enclaveModeField, pendingMtfField, exitFromRootField, entryFailureField]

/-- The basic reason. -/
def basic (reason : ExitReason) : BasicExitReason := ⟨basicField.get reason.bits⟩

/-- Whether the VM-entry failed, so that no guest instruction ran. -/
def entryFailure (reason : ExitReason) : Bool := entryFailureField.test reason.bits

/-- The dump of the exit reason. -/
def dump (reason : ExitReason) : Dump := dumpLayout "ExitReason" layout reason.bits

end ExitReason

/-- The exit qualification of a control-register access. -/
structure ControlAccess where
  bits : Word
deriving DecidableEq

namespace ControlAccess

def registerField : BitField := .number "cr_number" 0 4
def accessTypeField : BitField := .number "access_type" 4 2
def memoryOperandField : BitField := .flag "lmsw_memory_operand" 6
def gprField : BitField := .number "gpr" 8 4
def lmswSourceField : BitField := .number "lmsw_source_data" 16 16

/-- The fields of the qualification. -/
def layout : List BitField :=
  [registerField, accessTypeField, memoryOperandField, gprField, lmswSourceField]

/-- The number of the control register. -/
def register (access : ControlAccess) : BitVec 4 := registerField.get access.bits

/-- How the register was accessed. -/
def accessType (access : ControlAccess) : BitVec 2 := accessTypeField.get access.bits

/-- The number of the general-purpose register of a move. -/
def gpr (access : ControlAccess) : BitVec 4 := gprField.get access.bits

/-- The operand of LMSW. -/
def lmswSource (access : ControlAccess) : BitVec 16 := lmswSourceField.get access.bits

/-- The dump of the qualification. -/
def dump (access : ControlAccess) : Dump := dumpLayout "MovCrQualification" layout access.bits

end ControlAccess

end VtxMonitor
