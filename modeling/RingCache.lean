import RingCache.Flight.Session
import RingCache.Main
import RingCache.Proofs.Cluster.Bodies
import RingCache.Proofs.Cluster.Deliveries
import RingCache.Proofs.Cluster.Detours
import RingCache.Proofs.Cluster.Endpoints
import RingCache.Proofs.Cluster.Failures
import RingCache.Proofs.Cluster.Fetches
import RingCache.Proofs.Cluster.Placement
import RingCache.Proofs.Cluster.Resubmissions
import RingCache.Proofs.Cluster.Unlisted
import RingCache.Proofs.Envelope
import RingCache.Proofs.Flight.Independence
import RingCache.Proofs.Group.Budgets
import RingCache.Proofs.Group.Ledger
import RingCache.Proofs.Group.Residency
import RingCache.Proofs.Node.PeerPaths
import RingCache.Proofs.Node.Reachability
import RingCache.Proofs.Pool.Paths
import RingCache.Proofs.Pool.Spellings
import RingCache.Proofs.Recency.Checked
import RingCache.Proofs.Recency.Conservation
import RingCache.Proofs.Recency.Touches
import RingCache.Proofs.Registry.Isolation
import RingCache.Proofs.Ring.Agreement
import RingCache.Proofs.Ring.Disruption
import RingCache.Proofs.Ring.Repetition
