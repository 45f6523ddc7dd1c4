import VtxMonitor.Processor.Program
import VtxMonitor.Vcpu.Memory

/-!
# Host/Preparation — setting up the structures that the VMCS points to

The MSR bitmap is cleared so that no covered access exits, the task segment is zeroed, and IDT and
GDT are rebuilt. Intercepts are applied afterwards (`MsrIntercepts.install`).
-/

namespace VtxMonitor

/-- Hooks one kind of access to an MSR and reports an MSR outside the bitmap. -/
def MsrBitmap.install (access : MsrAccess) (msr : Msr.Number) (bitmap : MsrBitmap) :
    Program MsrBitmap := do
  if (MsrRange.of? msr).isNone then
    Program.report (.msrOutsideBitmap msr)
  return bitmap.hook access msr

/-- Hooks every intercepted access and reports the MSRs outside the bitmap. -/
def MsrIntercepts.install (intercepts : MsrIntercepts) (bitmap : MsrBitmap) :
    Program MsrBitmap := do
  Program.reportAll (intercepts.outside.map .msrOutsideBitmap)
  return intercepts.apply bitmap

/-- Initializes the bitmap, the task segment and the descriptor tables of a virtual processor. -/
def VcpuMemory.prepareTables (memory : VcpuMemory) : Program VcpuMemory := do
  let entryPoint ← Program.request .interruptEntryPoints
  let gdt := memory.gdt.prepare memory.tssAddress
  Program.report (.hostGdt gdt)
  return { memory with
    msrBitmap := .empty
    tss := .zero
    idt := .routing entryPoint
    gdt := gdt }

end VtxMonitor
