import VtxMonitor.Machine.Trial
import VtxMonitor.Simulator.Bench
import VtxMonitor.Simulator.Cluster
import VtxMonitor.Proofs.Processor.Execution
import VtxMonitor.Proofs.Processor.Steps
import VtxMonitor.Proofs.Processor.Interference
import VtxMonitor.Proofs.Simulator.Filling
import VtxMonitor.Proofs.Simulator.VmcsAccess
import VtxMonitor.Proofs.Control.Settings
import VtxMonitor.Proofs.Vmcs.Footprint
import VtxMonitor.Proofs.Vmcs.HostArea
import VtxMonitor.Proofs.Vmcs.Population
import VtxMonitor.Proofs.Vcpu.Phases
import VtxMonitor.Proofs.Vcpu.BringUp
import VtxMonitor.Proofs.Vcpu.Rollback
import VtxMonitor.Proofs.Vcpu.Outcome
import VtxMonitor.Proofs.Vcpu.StageMarker
import VtxMonitor.Proofs.Vcpu.EventOrder
import VtxMonitor.Proofs.Vcpu.Residue
import VtxMonitor.Proofs.Vcpu.Retry
import VtxMonitor.Proofs.Interruption.NmiWindow
import VtxMonitor.Proofs.Exit.Dispatch
import VtxMonitor.Proofs.Exit.Confinement
import VtxMonitor.Proofs.Exit.Handlers
import VtxMonitor.Proofs.Exit.Preemption
import VtxMonitor.Proofs.Exit.Incident
import VtxMonitor.Proofs.Exit.Containment
import VtxMonitor.Proofs.Exit.NmiAccounting
import VtxMonitor.Diagnostic
import VtxMonitor.Vmcs.Content
import VtxMonitor.Proofs.Vcpu.InterruptFlag
import VtxMonitor.Proofs.Vcpu.Lifecycle
import VtxMonitor.Proofs.Monitor.Configuration
import VtxMonitor.Proofs.Monitor.Virtualization
import VtxMonitor.Proofs.Exit.MsrWrites
import VtxMonitor.Proofs.Msr.Hooking
import VtxMonitor.Proofs.Host.Image
import VtxMonitor.Proofs.Vcpu.Teardown
import VtxMonitor.Proofs.Processor.VmcsHolder
import VtxMonitor.Proofs.Host.StateArea
import VtxMonitor.Proofs.Control.Fields
import VtxMonitor.Proofs.Exit.ControlAccess
import VtxMonitor.Proofs.Exit.Skipping
import VtxMonitor.Proofs.Vcpu.ControlWords
import VtxMonitor.Proofs.Processor.VmcsFrame
import VtxMonitor.Proofs.Exit.VirtualNmis
import VtxMonitor.Proofs.Segment.Decoding
import VtxMonitor.Proofs.Segment.TableReads
import VtxMonitor.Proofs.Control.Writers
import VtxMonitor.Proofs.Vmcs.GuestArea
import VtxMonitor.Proofs.Exit.Reflection
import VtxMonitor.Proofs.Vcpu.FeatureControl
import VtxMonitor.Proofs.Processor.Moments
import VtxMonitor.Proofs.Vcpu.Regions
import VtxMonitor.Proofs.Exit.MsrPair
import VtxMonitor.Proofs.Processor.RegisterFile
import VtxMonitor.Proofs.Vcpu.FixedBits
import VtxMonitor.Proofs.Machine.ExitEntry
import VtxMonitor.Proofs.Machine.InterruptEntry
import VtxMonitor.Proofs.Vcpu.LaunchFailure
import VtxMonitor.Proofs.Vcpu.Reloading
import VtxMonitor.Proofs.Machine.Invept
import VtxMonitor.Proofs.Control.Secondary
