import RingCache.Counters
import RingCache.Recency

/-!
# Local caches

What a group keeps: a store of octets that comes into being with the first
value. A cache reports what a write evicts, so that the group can count it.
-/

namespace RingCache

open Recency

/-- The values that a group keeps. -/
structure LocalCache where
  /-- The budget of the store. -/
  budget : Nat
  /-- The store, once there has been a value. -/
  store : Option (Store Octets) := none

namespace LocalCache

/-- The value of a key, which becomes the most recent. -/
def get? (cache : LocalCache) (key : String) : Option (Octets × LocalCache) := do
  let store ← cache.store
  let found ← store.get? key
  return (found.1, { cache with store := some found.2 })

/-- Keep a value, and list the pairs that this evicts. -/
def put (cache : LocalCache) (key : String) (value : Octets) :
    LocalCache × List (String × Octets) :=
  let written := (cache.store.getD (Store.empty cache.budget)).put key value
  ({ cache with store := some written.1 }, written.2)

/-- Whether a key has a value; this does not make the key more recent. -/
def contains (cache : LocalCache) (key : String) : Bool :=
  cache.store.any fun store => store.contains key

/-- The number of pairs. -/
def size (cache : LocalCache) : Nat :=
  cache.store.elim 0 Store.size

/-- The octets that the pairs cost. -/
def used (cache : LocalCache) : Nat :=
  cache.store.elim 0 Store.used

/-- The pairs, newest first. -/
def entries (cache : LocalCache) : List (String × Octets) :=
  cache.store.elim [] Store.entries

/-- The diagnostic line of a cache whose group has these counters. -/
def describe (cache : LocalCache) (counters : Counters) : String :=
  let data := cache.store.elim "None" fun store => "Some(" ++ store.describe ++ ")"
  "Shard \x7b cache_bytes: " ++ toString cache.budget ++ ", stats: " ++ counters.describe ++
    ", lru: Mutex \x7b data: " ++ data ++ " \x7d \x7d"

end LocalCache

end RingCache
