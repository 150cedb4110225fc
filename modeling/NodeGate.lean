import NodeGate.Admission.Decision
import NodeGate.Admission.Review
import NodeGate.ApiServer.Errand
import NodeGate.ApiServer.EventSeries
import NodeGate.ApiServer.Exchange
import NodeGate.ApiServer.Target
import NodeGate.ApiServer.Watch
import NodeGate.Capacity.Defaults
import NodeGate.Capacity.Quantity
import NodeGate.Capacity.Size
import NodeGate.Cluster.Cache
import NodeGate.Cluster.Event
import NodeGate.Cluster.Key
import NodeGate.Cluster.Patch
import NodeGate.Cluster.Program
import NodeGate.Cluster.Trace
import NodeGate.Dispatch
import NodeGate.Entries
import NodeGate.Fault
import NodeGate.Json.Basic
import NodeGate.Json.Decode
import NodeGate.Json.MergePatch
import NodeGate.Json.Parser
import NodeGate.Json.Pointer
import NodeGate.Json.Printer
import NodeGate.Machine.Manifest
import NodeGate.Main
import NodeGate.Net.SocketAddress
import NodeGate.Pool.Tally
import NodeGate.Pool.Tick
import NodeGate.Proofs.Admission.Answers
import NodeGate.Proofs.Admission.GateHistory
import NodeGate.Proofs.Admission.NewPods
import NodeGate.Proofs.Admission.PodDocument
import NodeGate.Proofs.Admission.Readers
import NodeGate.Proofs.Admission.Tolerance
import NodeGate.Proofs.Admission.Withdrawal
import NodeGate.Proofs.Capacity.MachineMemory
import NodeGate.Proofs.Capacity.PodRequests
import NodeGate.Proofs.Capacity.Provisioning
import NodeGate.Proofs.Capacity.QuantityMeasure
import NodeGate.Proofs.Capacity.WrittenQuantity
import NodeGate.Proofs.Cluster.Conduct
import NodeGate.Proofs.Cluster.EditedObjects
import NodeGate.Proofs.Cluster.Exchanges
import NodeGate.Proofs.Cluster.KeyedCache
import NodeGate.Proofs.Cluster.LabelPatch
import NodeGate.Proofs.Cluster.Listing
import NodeGate.Proofs.Cluster.MachineStore
import NodeGate.Proofs.Cluster.MergedConfigs
import NodeGate.Proofs.Cluster.MergedObjects
import NodeGate.Proofs.Cluster.MergedPods
import NodeGate.Proofs.Cluster.ObjectDocuments
import NodeGate.Proofs.Cluster.PatchEdits
import NodeGate.Proofs.Cluster.PlainServer
import NodeGate.Proofs.Cluster.Registry
import NodeGate.Proofs.Cluster.Snapshot
import NodeGate.Proofs.Cluster.Trials
import NodeGate.Proofs.Cluster.Upkeep
import NodeGate.Proofs.Json.Places
import NodeGate.Proofs.Json.ReadingBack
import NodeGate.Proofs.Json.Rereading
import NodeGate.Proofs.Json.Settled
import NodeGate.Proofs.Pool.Claimants
import NodeGate.Proofs.Pool.Claims
import NodeGate.Proofs.Pool.Cleanliness
import NodeGate.Proofs.Pool.Conservation
import NodeGate.Proofs.Pool.Convergence
import NodeGate.Proofs.Pool.Duty
import NodeGate.Proofs.Pool.Inspection
import NodeGate.Proofs.Pool.Interleaving
import NodeGate.Proofs.Pool.Orphans
import NodeGate.Proofs.Pool.Phases
import NodeGate.Proofs.Pool.Publishing
import NodeGate.Proofs.Pool.Readiness
import NodeGate.Proofs.Pool.Returning
import NodeGate.Proofs.Pool.Spares
import NodeGate.Proofs.Pool.Tidiness
import NodeGate.Proofs.Queue.Crew
import NodeGate.Proofs.Queue.Delivery
import NodeGate.Proofs.Queue.Exclusion
import NodeGate.Proofs.Queue.Order
import NodeGate.Proofs.Queue.Retries
import NodeGate.Proofs.Queue.RetryDelays
import NodeGate.Proofs.Queue.Turns
import NodeGate.Proofs.Release.Acquisition
import NodeGate.Proofs.Release.Calls
import NodeGate.Proofs.Release.Carrying
import NodeGate.Proofs.Release.Completion
import NodeGate.Proofs.Release.Creation
import NodeGate.Proofs.Release.Cycle
import NodeGate.Proofs.Release.Deletion
import NodeGate.Proofs.Release.DepartureCalls
import NodeGate.Proofs.Release.DepartureOrder
import NodeGate.Proofs.Release.Footprint
import NodeGate.Proofs.Release.Gate
import NodeGate.Proofs.Release.Handover
import NodeGate.Proofs.Release.Hosting
import NodeGate.Proofs.Release.Isolation
import NodeGate.Proofs.Release.Outcomes
import NodeGate.Proofs.Release.Pinning
import NodeGate.Proofs.Release.Reserving
import NodeGate.Proofs.Release.Skipping
import NodeGate.Proofs.Release.Tenancy
import NodeGate.Proofs.Resource.MachineDocuments
import NodeGate.Proofs.Resource.RoundTrip
import NodeGate.Proofs.Resource.WorkKeys
import NodeGate.Proofs.Telemetry.Bookkeeping
import NodeGate.Proofs.Telemetry.Ledger
import NodeGate.Proofs.Telemetry.Provenance
import NodeGate.Proofs.Telemetry.Sessions
import NodeGate.Proofs.Text.Base64
import NodeGate.Proofs.Text.Blank
import NodeGate.Proofs.Text.Decimal
import NodeGate.Proofs.Time.Instants
import NodeGate.Queue.Desk
import NodeGate.Queue.RetryHistory
import NodeGate.Queue.WorkQueue
import NodeGate.Rehearsal.Recorder
import NodeGate.Rehearsal.Scripted
import NodeGate.Rehearsal.Session
import NodeGate.Rehearsal.Watching
import NodeGate.Release.Claiming
import NodeGate.Release.Departure
import NodeGate.Release.Disposition
import NodeGate.Release.Pass
import NodeGate.Release.Site
import NodeGate.Resource.GateConfig
import NodeGate.Resource.GateConfigDefinition
import NodeGate.Resource.Names
import NodeGate.Resource.Node
import NodeGate.Resource.ObjectMeta
import NodeGate.Resource.ObjectReference
import NodeGate.Resource.Pod
import NodeGate.Resource.PoolState
import NodeGate.Resource.Schema
import NodeGate.Resource.Tolerance
import NodeGate.Resource.Vmi
import NodeGate.Settings
import NodeGate.Telemetry.Counters
import NodeGate.Telemetry.Endpoint
import NodeGate.Telemetry.Exposition
import NodeGate.Text.Base64
import NodeGate.Text.Blank
import NodeGate.Text.Decimal
import NodeGate.Text.Quoted
import NodeGate.Text.Shortest
import NodeGate.Text.Unseen
import NodeGate.Text.Utf8
import NodeGate.Time.Date
import NodeGate.Time.Instant
