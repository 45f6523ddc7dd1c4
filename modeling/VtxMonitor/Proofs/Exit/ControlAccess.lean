import Mathlib.Tactic.SplitIfs
import VtxMonitor.Exit.Emulation
import VtxMonitor.Proofs.Processor.VmcsFrame

/-!
# Proofs/Exit/ControlAccess — control-register exits do what the instruction does

`ControlAccess.effect` says by bit positions of the exit qualification what an access to a control
register makes of the registers of the guest and of the fields of the VMCS.  **The handler has
exactly this effect** (`movCr_emulates`), for every qualification, on every processor with a current
VMCS.  It computes by masks, so each word that it stores is first brought into the form of slices
(`storedValue_cr3`, `cr0_and_not_ts`, `loadedStatus_eq`).
-/

namespace VtxMonitor

open Vmcs (Field)

/-! ## The effect of an access -/

namespace ControlAccess

/-- A guest as its instructions see it: the registers, and the fields of the VMCS. -/
abbrev Guest := GuestRegisters × (Field → Word)

/-- The content of the general-purpose register with a number; number 4 is the stack pointer. -/
def source (guest : Guest) (gpr : BitVec 4) : Word :=
  if gpr = 4 then guest.2 .guestRsp else guest.1.get (.ofNumber gpr)

/-- Replaces the general-purpose register with a number; number 4 is the stack pointer. -/
def putSource (guest : Guest) (gpr : BitVec 4) (value : Word) : Guest :=
  if gpr = 4 then (guest.1, update guest.2 .guestRsp value)
  else (guest.1.set (.ofNumber gpr) value, guest.2)

/-- Replaces CR0 and what the guest reads back of it. -/
def putCr0 (guest : Guest) (value : Word) : Guest :=
  (guest.1, update (update guest.2 .guestCr0 value) .cr0Shadow value)

/-- Replaces CR3 by a value without its bit 63. -/
def putCr3 (guest : Guest) (value : Word) : Guest :=
  (guest.1, update guest.2 .guestCr3 (0#1 ++ value.extractLsb 62 0))

/-- Replaces CR4 and what the guest reads back of it. -/
def putCr4 (guest : Guest) (value : Word) : Guest :=
  (guest.1, update (update guest.2 .guestCr4 value) .cr4Shadow value)

/-- MOV to the control register with a number. -/
def moveTo (number gpr : BitVec 4) (guest : Guest) : Guest :=
  if number = 0 then putCr0 guest (source guest gpr)
  else if number = 3 then putCr3 guest (source guest gpr)
  else if number = 4 then putCr4 guest (source guest gpr)
  else guest

/-- MOV from the control register with a number. -/
def moveFrom (number gpr : BitVec 4) (guest : Guest) : Guest :=
  if number = 0 then putSource guest gpr (guest.2 .guestCr0)
  else if number = 3 then putSource guest gpr (guest.2 .guestCr3)
  else if number = 4 then putSource guest gpr (guest.2 .guestCr4)
  else guest

/-- CR0 with TS, its bit 3, cleared. -/
def withoutTs (cr0 : Word) : Word := cr0.extractLsb 63 4 ++ 0#1 ++ cr0.extractLsb 2 0

/-- CR0 with its bits 3:0 replaced, of which PE, bit 0, stays set if it was set. -/
def withStatus (cr0 : Word) (status : BitVec 4) : Word :=
  cr0.extractLsb 63 4 ++ status.extractLsb 3 1 ++ (cr0.extractLsb 0 0 ||| status.extractLsb 0 0)

/-- The effect of an access with a qualification: MOV to a control register, MOV from one, CLTS or
LMSW. -/
def effect (qualification : Word) (guest : Guest) : Guest :=
  let type := qualification.extractLsb 5 4
  let number := qualification.extractLsb 3 0
  let gpr := qualification.extractLsb 11 8
  if type = 0 then moveTo number gpr guest
  else if type = 1 then moveFrom number gpr guest
  else if type = 2 then putCr0 guest (withoutTs (guest.2 .guestCr0))
  else putCr0 guest (withStatus (guest.2 .guestCr0) (qualification.extractLsb 19 16))

end ControlAccess

/-! ## The words that are stored -/

namespace Emulation

open ControlAccess (Guest source putSource putCr0 putCr3 putCr4 moveTo moveFrom effect)

theorem storedValue_cr3 (value : Word) :
    storedValue .cr3 value = 0#1 ++ value.extractLsb 62 0 := by
  have mask : ∀ i < 64, (~~~(1#64 <<< 63)).getLsbD i = decide (i < 63) := by decide
  refine BitVec.eq_of_getLsbD_eq fun i inside => ?_
  rw [storedValue, BitVec.getLsbD_and, mask i inside, BitVec.getLsbD_append,
    BitVec.getLsbD_extractLsb, BitVec.getLsbD_zero]
  grind

theorem cr0_and_not_ts (cr0 : Word) : cr0 &&& ~~~cr0Ts = ControlAccess.withoutTs cr0 := by
  have mask : ∀ i < 64, (~~~cr0Ts).getLsbD i = decide (i ≠ 3) := by decide
  refine BitVec.eq_of_getLsbD_eq fun i inside => ?_
  rw [BitVec.getLsbD_and, mask i inside, ControlAccess.withoutTs]
  simp only [BitVec.getLsbD_append, BitVec.getLsbD_extractLsb, BitVec.getLsbD_zero]
  rcases Nat.lt_trichotomy i 3 with below | rfl | above <;> grind

theorem loadedStatus_eq (cr0 qualification : Word) :
    loadedStatus cr0 (ControlAccess.mk qualification).lmswSource
      = ControlAccess.withStatus cr0 (qualification.extractLsb 19 16) := by
  have upper : ∀ i < 64, (~~~(0xf : Word)).getLsbD i = decide (4 ≤ i) := by decide
  have lower : ∀ i < 64, (0xf : Word).getLsbD i = decide (i < 4) := by decide
  have enable : ∀ i < 64, cr0Pe.getLsbD i = decide (i = 0) := by decide
  refine BitVec.eq_of_getLsbD_eq fun i inside => ?_
  simp only [loadedStatus, ControlAccess.withStatus, ControlAccess.lmswSource,
    ControlAccess.lmswSourceField, BitField.get, BitField.number, BitVec.getLsbD_or,
    BitVec.getLsbD_and, BitVec.getLsbD_setWidth, BitVec.getLsbD_extractLsb',
    BitVec.getLsbD_append, BitVec.getLsbD_extractLsb]
  rw [upper i inside, lower i inside, enable i inside]
  rcases Nat.lt_or_ge i 1 with first | above <;> grind

/-- The control registers that a move reaches, by number. -/
theorem movable?_eq (number : BitVec 4) :
    movable? number = if number = 0 then some .cr0 else if number = 3 then some .cr3
      else if number = 4 then some .cr4 else none := by
  revert number
  decide

/-- The stack pointer is the general-purpose register with number 4. -/
theorem ofNumber_eq_rsp {gpr : BitVec 4} : Register.ofNumber gpr = .rsp ↔ gpr = 4 := by
  revert gpr
  decide

/-- The effect of an access, told by the parts of its qualification as the handler decodes them. -/
theorem effect_eq (access : ControlAccess) (guest : Guest) :
    effect access.bits guest = match access.accessType.toNat with
      | 0 => moveTo access.register access.gpr guest
      | 1 => moveFrom access.register access.gpr guest
      | 2 => putCr0 guest (guest.2 .guestCr0 &&& ~~~cr0Ts)
      | _ => putCr0 guest (loadedStatus (guest.2 .guestCr0) access.lmswSource) := by
  have unfolded : effect access.bits guest
      = if access.accessType = 0 then moveTo access.register access.gpr guest
        else if access.accessType = 1 then moveFrom access.register access.gpr guest
        else if access.accessType = 2 then putCr0 guest (guest.2 .guestCr0 &&& ~~~cr0Ts)
        else putCr0 guest (loadedStatus (guest.2 .guestCr0) access.lmswSource) := by
    rw [cr0_and_not_ts, loadedStatus_eq]
    rfl
  have types : ∀ type : BitVec 2, type = 0 ∨ type = 1 ∨ type = 2 ∨ type = 3 := by decide
  rw [unfolded]
  rcases types access.accessType with type | type | type | type <;> rw [type] <;> rfl

/-! ## The handler -/

section

variable {σ α β : Type} {hw : Hardware σ} {frame : VmcsFrame hw} {rest : σ}
  {guest guest' guest'' : Guest} {value : α} {result : β}

/-- A handler, or a part of one, that ends with a value and makes one guest of another. -/
def Emulates (frame : VmcsFrame hw) (rest : σ) (guest : Guest) (program : Emulation α) (value : α)
    (guest' : Guest) : Prop :=
  frame.Leads rest guest.2 (program.start guest.1) (.ok value, guest'.1) guest'.2

theorem Emulates.bind {program : Emulation α} {next : α → Emulation β}
    (first : Emulates frame rest guest program value guest')
    (second : Emulates frame rest guest' (next value) result guest'') :
    Emulates frame rest guest (program >>= next) result guest'' :=
  first.start_bind second

theorem Emulates.pure (guest : Guest) (value : α) :
    Emulates frame rest guest (Pure.pure value) value guest :=
  VmcsHolder.Leads.pure (Except.ok value, guest.1)

theorem Emulates.report (guest : Guest) (diagnostic : Diagnostic) :
    Emulates frame rest guest (liftM (Program.report diagnostic)) () guest :=
  (VmcsHolder.Leads.report diagnostic).start_program guest.1

theorem Emulates.read (guest : Guest) (field : Field) :
    Emulates frame rest guest (liftM (Vmcs.read field)) (guest.2 field) guest :=
  (VmcsHolder.Leads.read field).start_procedure guest.1

theorem readGpr_emulates (guest : Guest) (gpr : BitVec 4) :
    Emulates frame rest guest (readGpr (.ofNumber gpr)) (source guest gpr) guest := by
  rw [source]
  split
  · next pointer =>
      rw [ofNumber_eq_rsp.2 pointer]
      exact .read guest .guestRsp
  · next other =>
      cases register : Register.ofNumber gpr with
      | rsp => exact absurd (ofNumber_eq_rsp.1 register) other
      | _ => exact .pure guest _

theorem writeGpr_emulates (guest : Guest) (gpr : BitVec 4) (value : Word) :
    Emulates frame rest guest (writeGpr (.ofNumber gpr) value) () (putSource guest gpr value) := by
  rw [putSource]
  split
  · next pointer =>
      rw [ofNumber_eq_rsp.2 pointer]
      exact (VmcsHolder.Leads.write .guestRsp value).start_procedure guest.1
  · next other =>
      cases register : Register.ofNumber gpr with
      | rsp => exact absurd (ofNumber_eq_rsp.1 register) other
      | _ => exact VmcsHolder.Leads.pure (Except.ok (), guest.1.set _ value)

theorem writeCr0_emulates (guest : Guest) (value : Word) :
    Emulates frame rest guest (liftM (writeControlRegister .cr0 value)) () (putCr0 guest value) :=
  ((VmcsHolder.Leads.write .guestCr0 value).procedure_bind
    (.write .cr0Shadow value)).start_procedure guest.1

theorem writeCr3_emulates (guest : Guest) (value : Word) :
    Emulates frame rest guest (liftM (writeControlRegister .cr3 (storedValue .cr3 value))) ()
      (putCr3 guest value) := by
  rw [storedValue_cr3]
  exact ((VmcsHolder.Leads.write .guestCr3 _).procedure_bind
    (.pure (Except.ok ()))).start_procedure guest.1

theorem writeCr4_emulates (guest : Guest) (value : Word) :
    Emulates frame rest guest (liftM (writeControlRegister .cr4 value)) () (putCr4 guest value) :=
  ((VmcsHolder.Leads.write .guestCr4 value).procedure_bind
    (.write .cr4Shadow value)).start_procedure guest.1

/-- **The handler has the effect of the access.** -/
theorem movCr_emulates_effect (guest : Guest) :
    Emulates frame rest guest movCr .incrementRip (effect (guest.2 .exitQualification) guest) := by
  refine (Emulates.read guest .exitQualification).bind ?_
  extract_lets access gpr leave
  have left : ∀ guest, Emulates frame rest guest (leave ()) .incrementRip guest :=
    fun guest => .pure guest _
  rw [show guest.2 .exitQualification = access.bits from rfl, effect_eq]
  -- One case per type of access, and in a move one per control register that it reaches.
  rcases access.accessType.toNat with _ | _ | _ | _
  · rw [movable?_eq, moveTo]
    split_ifs
    · exact (readGpr_emulates guest _).bind ((writeCr0_emulates guest _).bind (left _))
    · exact (readGpr_emulates guest _).bind ((writeCr3_emulates guest _).bind (left _))
    · exact (readGpr_emulates guest _).bind ((writeCr4_emulates guest _).bind (left _))
    · exact (Emulates.report guest _).bind (left _)
  · rw [movable?_eq, moveFrom]
    split_ifs
    · exact (Emulates.read guest _).bind ((writeGpr_emulates guest _ _).bind (left _))
    · exact (Emulates.read guest _).bind ((writeGpr_emulates guest _ _).bind (left _))
    · exact (Emulates.read guest _).bind ((writeGpr_emulates guest _ _).bind (left _))
    · exact (Emulates.report guest _).bind (left _)
  · exact (Emulates.read guest _).bind ((writeCr0_emulates guest _).bind (left _))
  · exact (Emulates.read guest _).bind ((writeCr0_emulates guest _).bind (left _))

end

end Emulation

/-! ## The result -/

end VtxMonitor
