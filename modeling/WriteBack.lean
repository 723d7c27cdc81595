import WriteBack.Journal.OnDisk
import WriteBack.Medium.InMemory
import WriteBack.Proofs.Atomicity
import WriteBack.Proofs.Reading
import WriteBack.Proofs.Retry
import WriteBack.Rig.Rigged
import WriteBack.Settings.Reading
import WriteBack.Proofs.Calls
import WriteBack.Proofs.Bound
import WriteBack.Proofs.Durability
import WriteBack.Proofs.FaultFree
import WriteBack.Proofs.Filing
import WriteBack.Proofs.Transparency
import WriteBack.Proofs.Continuity
import WriteBack.Proofs.Stability
import WriteBack.Proofs.Interchange
import WriteBack.Proofs.Lag
import WriteBack.Proofs.Shutdown
import WriteBack.Proofs.Breakoff
import WriteBack.Proofs.Unhindered
import WriteBack.Proofs.Tallies
import WriteBack.Proofs.Batching
import WriteBack.Proofs.Residency
import WriteBack.Proofs.Draining
import WriteBack.Proofs.Bufferless
import WriteBack.Proofs.Indexing
import WriteBack.Proofs.Accounting
import WriteBack.Proofs.Armings
import WriteBack.Proofs.Layers
import WriteBack.Proofs.Retelling
import WriteBack.Proofs.Tampering
import WriteBack.Proofs.Salvage
import WriteBack.Proofs.Opening
import WriteBack.Proofs.Tolerance
