import VtxMonitor.Proofs.Processor.Steps

/-!
# Proofs/Vmcs/Footprint — which fields a program that fills the VMCS can write

`Operation.Fills` bounds a request to looks at the processor and writes of given fields.  **A
program that keeps to that bound writes no other field** (`Fills.mem_of_writes`), whatever it is
answered, and everything else that is said about the requests of such a program is a weaker bound
(`Program.Only.mono`).
-/

namespace VtxMonitor

open Vmcs (Field)

/-! ## Areas -/

/-- The areas of the VMCS. -/
inductive Vmcs.Area where
  | control
  | exitInformation
  | guest
  | host
deriving DecidableEq

/-- The area of a field is part of its encoding. -/
def Vmcs.Field.area (field : Field) : Vmcs.Area :=
  match (field.extractLsb' 10 2).toNat with
  | 0 => .control
  | 1 => .exitInformation
  | 2 => .guest
  | _ => .host

/-! ## Requests -/

namespace Operation

/-- Requests that leave a processor as it is. -/
def Passive : Operation → Prop
  | .cpuid .. | .readMsr _ | .readCr _ | .readDr7 | .readRflags | .gdtr | .idtr | .tableEntry ..
  | .selectors | .physicalAddress _ | .vmread _ | .exitEntryPoint | .interruptEntryPoints
  | .report _ => True
  | _ => False

/-- The requests that only look at the processor, and not at the VMCS. -/
def Inspects : Operation → Prop
  | .vmread _ => False
  | op => op.Passive

/-- Requests that fill given fields of the current VMCS without looking at any. -/
def Fills (fields : List Field) : Operation → Prop
  | .vmwrite field _ => field ∈ fields
  | op => op.Inspects

/-- Requests that fill the current VMCS without looking at it. -/
def Filling : Operation → Prop
  | .vmwrite .. => True
  | op => op.Inspects

/-- Whether a request writes a VMCS field. -/
def Writes (field : Field) : Operation → Prop
  | .vmwrite written _ => written = field
  | _ => False

variable {op : Operation} {fields fields' : List Field}

theorem Inspects.passive (inspects : op.Inspects) : op.Passive := by
  cases op with
  | _ => first | exact trivial | exact inspects.elim

theorem Inspects.fills (inspects : op.Inspects) (fields : List Field) : op.Fills fields := by
  cases op with
  | vmwrite => exact inspects.elim
  | _ => exact inspects

theorem Fills.filling (fills : op.Fills fields) : op.Filling := by
  cases op with
  | vmwrite => trivial
  | _ => exact fills

theorem Fills.mono (fills : op.Fills fields) (inside : fields ⊆ fields') : op.Fills fields' := by
  cases op with
  | vmwrite => exact inside fills
  | _ => exact fills

/-- **What fills given fields writes no other.** -/
theorem Fills.mem_of_writes (fills : op.Fills fields) {field : Field} (writes : op.Writes field) :
    field ∈ fields := by
  cases op with
  | vmwrite =>
      obtain rfl := writes
      exact fills
  | _ => exact writes.elim

end Operation

/-! ## Programs -/

namespace Vmcs

open Operation (Fills)

variable {fields : List Field}

theorem write_fills {field : Field} (mem : field ∈ fields) (value : Word) :
    (write field value).run.Only (Fills fields) :=
  ⟨mem, fun _ => trivial⟩

theorem writeExitEntryPoint_fills {field : Field} (mem : field ∈ fields) :
    (writeExitEntryPoint field).run.Only (Fills fields) :=
  ⟨mem, fun _ => trivial⟩

theorem writeAll_fills {values : List (Field × Word)} (mem : ∀ entry ∈ values, entry.1 ∈ fields) :
    (writeAll values).run.Only (Fills fields) := by
  induction values with
  | nil => trivial
  | cons entry values ih =>
      have first := write_fills (mem entry List.mem_cons_self) entry.2
      exact first.procedure_bind fun _ => ih fun later inside =>
        mem later (List.mem_cons_of_mem _ inside)

/-- A program that goes on with a request that only looks at the processor. -/
theorem ask_fills {op : Operation} {next : op.Reply → Procedure Unit} (inspects : op.Inspects)
    (rest : ∀ reply, (next reply).run.Only (Fills fields)) :
    (liftM (Program.request op) >>= next : Procedure Unit).run.Only (Fills fields) :=
  ⟨inspects.fills fields, rest⟩

theorem physicalAddress_fills (address : Word) :
    (Procedure.physicalAddress address).run.Only (Fills fields) := by
  refine ⟨trivial, fun reply => ?_⟩
  cases reply <;> trivial

end Vmcs

end VtxMonitor
