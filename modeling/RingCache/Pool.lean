import RingCache.Address
import RingCache.Ascending
import RingCache.Client
import RingCache.Ring

/-!
# Pools of peers

A pool knows the peers of a node and which of them owns a key. Its peers are
always replaced as a whole: the ring and the clients are built from the new
list alone, and nothing of the old one is left. A key that the node itself
owns, or that nobody owns, has no peer.
-/

namespace RingCache

/-- The peers of a node. -/
structure Pool where
  /-- The node's own address, in normal form. -/
  self : String
  /-- The base path of all peers, in normal form. -/
  basePath : String
  /-- How many ring positions each peer claims. -/
  replicas : Nat
  /-- What clients know at once of their requests. -/
  transport : Transport
  /-- The ring of the peers. -/
  ring : Ring
  /-- The client of each peer, ascending by address. -/
  clients : List (String × Client)

namespace Pool

/-- A pool without peers. -/
def create (self basePath : String) (replicas : Nat) (transport : Transport) : Pool where
  self := Address.normalize self
  basePath := Address.basePath basePath
  replicas := replicas
  transport := transport
  ring := Ring.empty Crc32c.checksum replicas
  clients := []

/-- Addresses in normal form, without those of which nothing is left. -/
def addresses (peers : List String) : List String :=
  (peers.map Address.normalize).filter fun address => !address.isEmpty

/-- The client of an address. -/
def clientOf (pool : Pool) (address : String) : Client :=
  ⟨address ++ pool.basePath⟩

/-- Replace the peers. -/
def setPeers (pool : Pool) (peers : List String) : Pool :=
  let addresses := addresses peers
  { pool with
    ring := (Ring.empty Crc32c.checksum pool.replicas).insertAll addresses
    clients := Ascending.ofList (addresses.map fun address => (address, pool.clientOf address)) }

/-- The addresses of the peers, ascending. -/
def peers (pool : Pool) : List String :=
  pool.clients.map Prod.fst

/-- The client of the peer that owns a key, unless the node owns it. -/
def pick? (pool : Pool) (key : String) : Option Client := do
  let owner ← pool.ring.owner? key
  if owner = pool.self then none else pool.clients.lookup owner

/-- The picker that groups ask. -/
def picker (pool : Pool) : Picker := fun key =>
  (pool.pick? key).map fun client => client.peer pool.transport

end Pool

end RingCache
