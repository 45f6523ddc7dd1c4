import VtxMonitor.Interruption.Delivery
import VtxMonitor.Proofs.Simulator.VmcsAccess

/-!
# Proofs/Interruption/NmiWindow — the bit that remembers a non-maskable interrupt

A pending non-maskable interrupt is one bit of the primary control word, and turning that bit on or
off leaves the 31 others alone (`others_update`).  Where the capabilities permit the word with and
without the bit (`WindowSwitchable`), **turning it on or off cannot fail** (`run_setExiting`).
-/

namespace VtxMonitor

open SimulatedProcessor (hardware)

namespace NmiWindow

/-- The bits of a primary control word besides NMI-window exiting. -/
def others (primary : BitVec 32) : BitVec 32 :=
  primary &&& ~~~PrimaryControls.nmiWindowExiting.mask

/-- Whether NMI-window exiting is on in a primary control word. -/
def isOpen (primary : BitVec 32) : Bool := PrimaryControls.nmiWindowExiting.isSetIn primary

theorem update_true (primary : BitVec 32) :
    update true primary = others primary ||| PrimaryControls.nmiWindowExiting.mask := by
  ext i
  simp only [update, others, if_true, BitVec.getElem_or, BitVec.getElem_and, BitVec.getElem_not]
  cases primary[i] <;> cases PrimaryControls.nmiWindowExiting.mask[i] <;> rfl

theorem update_false (primary : BitVec 32) : update false primary = others primary := rfl

/-- Turning the bit on or off only depends on the other bits. -/
theorem update_congr {primary primary' : BitVec 32} (h : others primary' = others primary)
    (enabled : Bool) : update enabled primary' = update enabled primary := by
  cases enabled
  · rw [update_false, update_false, h]
  · rw [update_true, update_true, h]

@[simp] theorem others_update (enabled : Bool) (primary : BitVec 32) :
    others (update enabled primary) = others primary := by
  cases enabled
  · rw [update_false, others, others, BitVec.and_assoc, BitVec.and_self]
  · ext i
    simp only [update, others, if_true, BitVec.getElem_or, BitVec.getElem_and, BitVec.getElem_not]
    cases primary[i] <;> cases PrimaryControls.nmiWindowExiting.mask[i] <;> rfl

@[simp] theorem isOpen_update (enabled : Bool) (primary : BitVec 32) :
    isOpen (update enabled primary) = enabled := by
  have proper : PrimaryControls.nmiWindowExiting.mask ≠ 0 := by decide
  cases enabled with
  | false =>
      have cleared : others primary &&& PrimaryControls.nmiWindowExiting.mask = 0 := by
        rw [others, BitVec.and_assoc, BitVec.and_comm (~~~_), BitVec.and_not_self]
        simp
      rw [update_false, isOpen, Flag.isSetIn, cleared]
      exact beq_false_of_ne proper.symm
  | true =>
      rw [isOpen, Flag.isSetIn, beq_iff_eq]
      ext i
      simp only [update, if_true, BitVec.getElem_and, BitVec.getElem_or]
      cases primary[i] <;> cases PrimaryControls.nmiWindowExiting.mask[i] <;> rfl

end NmiWindow

/-- The MSRs that decide which primary control words are permitted. -/
def Msr.primaryCapability : List Msr.Number :=
  [Msr.vmxBasic, Msr.procBasedCtls, Msr.trueProcBasedCtls]

namespace SimulatedProcessor

/-- The primary control word of the current VMCS, as it is read back. -/
def primaryControls (cpu : SimulatedProcessor) : BitVec 32 :=
  (cpu.word .primaryControls).setWidth 32

/-- Whether the guest exits as soon as it can receive a non-maskable interrupt. -/
def nmiWindowOpen (cpu : SimulatedProcessor) : Bool := NmiWindow.isOpen cpu.primaryControls

theorem run_readPrimary {cpu : SimulatedProcessor} (current : cpu.currentVmcs.isSome) :
    hardware.run (VmxControl.read .primary).run cpu = (.ok cpu.primaryControls, cpu) :=
  run_readControl current .primary

theorem primaryControls_congr {cpu cpu' : SimulatedProcessor}
    (h : cpu'.fields .primaryControls = cpu.fields .primaryControls) :
    cpu'.primaryControls = cpu.primaryControls := congrArg (BitVec.setWidth 32) (word_congr h)

/-- Writing a control word of 32 bits and reading it back. -/
@[simp] theorem primaryControls_setField (cpu : SimulatedProcessor) (primary : BitVec 32) :
    (cpu.setField .primaryControls (primary.setWidth 64)).primaryControls = primary := by
  rw [primaryControls, word_setField_self]
  exact BitVec.setWidth_setWidth_of_le _ (by decide)

/-- A processor with a current VMCS whose capabilities permit the primary control word both with
and without NMI-window exiting. -/
structure WindowSwitchable (cpu : SimulatedProcessor) : Prop where
  current : cpu.currentVmcs.isSome
  permitted : ∀ enabled,
    (cpu.allowedSettings .primary).permits (NmiWindow.update enabled cpu.primaryControls)

/-- A processor with NMI-window exiting turned on or off. -/
def withWindow (cpu : SimulatedProcessor) (enabled : Bool) : SimulatedProcessor :=
  cpu.setField .primaryControls ((NmiWindow.update enabled cpu.primaryControls).setWidth 64)

/-- Writing a control word with NMI-window exiting turned on or off, wherever it was read. -/
theorem nmiWindowOpen_setField (cpu : SimulatedProcessor) (enabled : Bool) (primary : BitVec 32) :
    (cpu.setField .primaryControls
      ((NmiWindow.update enabled primary).setWidth 64)).nmiWindowOpen = enabled := by
  rw [nmiWindowOpen, primaryControls_setField, NmiWindow.isOpen_update]

@[simp] theorem nmiWindowOpen_withWindow (cpu : SimulatedProcessor) (enabled : Bool) :
    (cpu.withWindow enabled).nmiWindowOpen = enabled :=
  cpu.nmiWindowOpen_setField enabled cpu.primaryControls

/-- **Where both words are permitted, NMI-window exiting can be turned on and off.** -/
theorem run_setExiting {cpu : SimulatedProcessor} (switchable : cpu.WindowSwitchable)
    (enabled : Bool) :
    hardware.run (NmiWindow.setExiting enabled).run cpu = (.ok (), cpu.withWindow enabled) := by
  rw [NmiWindow.setExiting, Hardware.run_procedure_ok hardware (run_readPrimary switchable.current)]
  exact run_writeExact switchable.current (switchable.permitted enabled)

/-! ## The two events that touch the window -/

/-- A host interrupt that is a non-maskable one opens the window. -/
theorem run_handle_nmi {cpu : SimulatedProcessor} (switchable : cpu.WindowSwitchable)
    {frame : TrapFrame} (nmi : frame.vector = nmiVector.setWidth 64) :
    hardware.run frame.handle.run cpu = (.ok (), cpu.withWindow true) := by
  rw [TrapFrame.handle, if_pos nmi]
  exact run_setExiting switchable true

/-- Any other host interrupt is ignored. -/
theorem run_handle_other (cpu : SimulatedProcessor) {frame : TrapFrame}
    (other : frame.vector ≠ nmiVector.setWidth 64) :
    hardware.run frame.handle.run cpu = (.ok (), cpu) := by
  rw [TrapFrame.handle, if_neg other]
  rfl

/-- The word that queues a non-maskable interrupt for the next VM-entry. -/
theorem nmi_bits : EventInjection.nmi.bits = 0x80000202 := by decide

/-- A processor with a non-maskable interrupt queued for the next VM-entry. -/
def withNmiInjected (cpu : SimulatedProcessor) : SimulatedProcessor :=
  cpu.setField .entryInterruption 0x80000202

theorem run_inject_nmi {cpu : SimulatedProcessor} (current : cpu.currentVmcs.isSome) :
    hardware.run (EventInjection.nmi.inject 0).run cpu = (.ok (), cpu.withNmiInjected) := by
  have noErrorCode : EventInjection.nmi.deliverErrorCode = false := by decide
  rw [EventInjection.inject, noErrorCode, if_neg Bool.false_ne_true, nmi_bits]
  exact run_write current _ _

end SimulatedProcessor

end VtxMonitor
