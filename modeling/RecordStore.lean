import RecordStore.Builder
import RecordStore.Entity
import RecordStore.Metrics.Process
import RecordStore.Proofs.Atomicity
import RecordStore.Proofs.BatchLimits
import RecordStore.Proofs.BatchPuts
import RecordStore.Proofs.Commutation
import RecordStore.Proofs.Isolation
import RecordStore.Proofs.ItemIdentity
import RecordStore.Proofs.Layers
import RecordStore.Proofs.Lineage
import RecordStore.Proofs.Metrics.MeteredRun
import RecordStore.Proofs.Race
import RecordStore.Proofs.Refinement
import RecordStore.Proofs.Region
import RecordStore.Proofs.SavedValue
import RecordStore.Proofs.SharedRead.Cancellation
import RecordStore.Proofs.SharedRead.Publication
import RecordStore.Proofs.SharedRead.Schedule
import RecordStore.Proofs.SharedRead.SingleFlight
import RecordStore.Proofs.Signing.Unambiguity
import RecordStore.Proofs.Signing.Verification
import RecordStore.Proofs.Staleness
import RecordStore.Proofs.TypedReads
import RecordStore.Proofs.Url.RegionalHost
import RecordStore.Proofs.Visibility
import RecordStore.Proofs.Wire.ExpiryText
import RecordStore.Proofs.Wire.Loopback
import RecordStore.Proofs.Wire.RecordForm
import RecordStore.Proofs.Wire.Refusal
import RecordStore.Proofs.WireTraffic
import RecordStore.Proofs.WriteBack
import RecordStore.Typed
