import RingCache.Crc32c
import Std.Data.ExtHashMap

/-!
# Rings of owners

A ring places names at positions between `0` and `2 ^ 32 - 1`, every name at
as many positions as the ring has replicas. A key belongs to the name at the
first position at or after the hash of the key, or to the name at the lowest
position when there is none. A position that two names claim belongs to the
later one.

The positions are kept in ascending order, each once, and their owners in a
table beside them. So a key is looked up in two steps: its hash is searched for
among the positions, and the position that is found among the owners.
-/

namespace RingCache

/-- A hash of octets to ring positions. -/
abbrev Hash := Octets -> UInt32

/-- Names at positions of a ring. -/
structure Ring where
  /-- The hash that places names and keys. -/
  hash : Hash
  /-- How many positions each name claims. -/
  replicas : Nat
  /-- The claimed positions, ascending, each once. -/
  positions : Array UInt32
  /-- The owners of the claimed positions. -/
  owners : Std.ExtHashMap UInt32 String

namespace Ring

/-- How many positions a name claims when nothing else is asked for. -/
def defaultReplicas : Nat := 50

/-- A ring without names. -/
def empty (hash : Hash) (replicas : Nat) : Ring :=
  ⟨hash, replicas, #[], ∅⟩

/-! ## Names -/

/-- The position of a name's replica with this number. -/
def position (ring : Ring) (name : String) (replica : Nat) : UInt32 :=
  ring.hash (Utf8.encode (toString replica ++ name))

/-- The claims that a name makes, in order. -/
def claimsOf (ring : Ring) (name : String) : List (UInt32 × String) :=
  (List.range ring.replicas).map fun replica => (ring.position name replica, name)

/-- Place names one after the other. The positions are put in order once all of
them are there. -/
def insertAll (ring : Ring) (names : List String) : Ring :=
  let claims := names.flatMap ring.claimsOf
  { ring with
    positions :=
      ((ring.positions.toList ++ claims.map Prod.fst).mergeSort (· ≤ ·)).eraseReps.toArray
    owners := ring.owners.insertMany claims }

/-- The number of claimed positions. -/
def size (ring : Ring) : Nat :=
  ring.positions.size

/-- Whether no position is claimed. -/
def isEmpty (ring : Ring) : Bool :=
  ring.positions.isEmpty

/-! ## Keys -/

/-- The first place from `low` to `high` whose position is not before a hash, or
`high`: the half of the places in which it cannot be is left out, until none is
left. -/
def searchFrom (hash : UInt32) (positions : Array UInt32) (low high : Nat) : Nat :=
  if low < high then
    let middle := (low + high) / 2
    if positions[middle]?.any (· < hash) then searchFrom hash positions (middle + 1) high
    else searchFrom hash positions low middle
  else low
termination_by high - low

/-- The number of positions before a hash, all of which stand first. -/
def search (hash : UInt32) (positions : Array UInt32) : Nat :=
  searchFrom hash positions 0 positions.size

/-- The name that owns a key. -/
def owner? (ring : Ring) (key : String) : Option String :=
  if ring.positions.isEmpty then none
  else
    let place := search (ring.hash (Utf8.encode key)) ring.positions
    (ring.positions[place % ring.positions.size]?).bind fun position => ring.owners[position]?

end Ring

end RingCache
