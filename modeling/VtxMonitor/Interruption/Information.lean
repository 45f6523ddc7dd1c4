import VtxMonitor.Word.Field

/-!
# Interruption/Information — the words that describe an interrupt or exception

The VM-exit interruption information says which event caused an exit; the VM-entry interruption
information queues an event for the next entry. Both have the vector in bits 7:0, the type in bits
10:8, the error-code bit 11 and the valid bit 31.
-/

namespace VtxMonitor

open Text (Dump)

/-- The types of events. -/
inductive InterruptionType where
  | externalInterrupt
  | nonMaskable
  | hardwareException
  | softwareInterrupt
  | privilegedSoftwareException
  | softwareException
  | otherEvent
deriving DecidableEq

/-- The code of an event type. -/
def InterruptionType.code : InterruptionType → BitVec 3
  | .externalInterrupt => 0
  | .nonMaskable => 2
  | .hardwareException => 3
  | .softwareInterrupt => 4
  | .privilegedSoftwareException => 5
  | .softwareException => 6
  | .otherEvent => 7

/-- The vector of the non-maskable interrupt. -/
def nmiVector : BitVec 8 := 2

/-- The vector of the general-protection exception. -/
def generalProtectionVector : BitVec 8 := 13

/-- The VM-exit interruption information: which event caused the exit. -/
structure ExitInterruption where
  bits : BitVec 32
deriving DecidableEq

namespace ExitInterruption

def vectorField : BitField := .number "vector" 0 8
def typeField : BitField := .number "interruption_type" 8 3
def errorCodeValidField : BitField := .flag "error_code_valid" 11
def nmiUnblockingField : BitField := .flag "nmi_unblocking" 12
def validField : BitField := .flag "valid" 31

/-- The fields of the exit information. -/
def layout : List BitField :=
  [vectorField, typeField, errorCodeValidField, nmiUnblockingField, validField]

def vector (info : ExitInterruption) : BitVec 8 := vectorField.get info.bits
def type (info : ExitInterruption) : BitVec 3 := typeField.get info.bits
def errorCodeValid (info : ExitInterruption) : Bool := errorCodeValidField.test info.bits
def valid (info : ExitInterruption) : Bool := validField.test info.bits

/-- Whether the exit was caused by a non-maskable interrupt. -/
def isNmi (info : ExitInterruption) : Bool :=
  info.valid && info.type = InterruptionType.nonMaskable.code

/-- The dump of the exit information. -/
def dump (info : ExitInterruption) : Dump := dumpLayout "ExitInterruptionInfo" layout info.bits

end ExitInterruption

/-- The VM-entry interruption information: which event the next entry delivers. -/
structure EventInjection where
  bits : BitVec 32
deriving DecidableEq

namespace EventInjection

def vectorField : BitField := .number "get_vector" 0 8
def typeField : BitField := .number "get_type" 8 3
def deliverErrorCodeField : BitField := .flag "get_deliver_error_code" 11
def validField : BitField := .flag "get_valid" 31

/-- The fields of the entry information. -/
def layout : List BitField := [vectorField, typeField, deliverErrorCodeField, validField]

def vector (event : EventInjection) : BitVec 8 := vectorField.get event.bits
def type (event : EventInjection) : BitVec 3 := typeField.get event.bits
def deliverErrorCode (event : EventInjection) : Bool := deliverErrorCodeField.test event.bits
def valid (event : EventInjection) : Bool := validField.test event.bits

/-- A valid event with the given vector, type and error-code bit; all other bits are zero. -/
def of (vector : BitVec 8) (type : BitVec 3) (deliverErrorCode : Bool) : EventInjection :=
  ⟨validField.putFlag true
    (deliverErrorCodeField.putFlag deliverErrorCode
      (typeField.put type (vectorField.put vector 0)))⟩

/-- The non-maskable interrupt. -/
def nmi : EventInjection := .of nmiVector InterruptionType.nonMaskable.code false

/-- A hardware exception. -/
def hardwareException (vector : BitVec 8) (deliverErrorCode : Bool) : EventInjection :=
  .of vector InterruptionType.hardwareException.code deliverErrorCode

/-- The general-protection exception, which delivers an error code. -/
def generalProtection : EventInjection := hardwareException generalProtectionVector true

/-- The event that caused an exit, to be delivered again with its type kept. -/
def reflect (info : ExitInterruption) : EventInjection :=
  .of info.vector info.type info.errorCodeValid

/-- Software interrupts and exceptions are delivered behind the instruction that raised them, so the
entry needs its length. -/
def needsInstructionLength (event : EventInjection) : Bool :=
  event.type = InterruptionType.softwareInterrupt.code ||
    event.type = InterruptionType.privilegedSoftwareException.code ||
    event.type = InterruptionType.softwareException.code

/-- The dump of the entry information. -/
def dump (event : EventInjection) : Dump := dumpLayout "EventInjection" layout event.bits

end EventInjection

end VtxMonitor
