import RingCache.Text.Utf8
import Std.Data.HashMap

/-!
# Stores that forget the least recent

A store keeps pairs of a key and a value within a budget of octets. A pair
costs the octets of its key and the size of its value. Reading or writing a key
makes it the most recent; when the budget is exceeded, the least recent pairs
are evicted until it is kept. A budget of zero is no limit.

The pairs lie in an array of slots, each linked to the next newer and the next
older one, and an index leads from a key to its slot. So every operation but
eviction touches a fixed number of slots. When a slot in the middle becomes
free, the last one is moved into it. `Store.entries` is the view of a store as
a list, newest pair first.
-/

namespace RingCache.Recency

/-- Values with a size in octets. -/
class HasSize (V : Type) where
  /-- The size of a value. -/
  size : V -> Nat

/-- A text takes as many octets as its encoding. -/
instance : HasSize String := ⟨String.utf8ByteSize⟩

/-- Octets take as many octets as there are. -/
instance : HasSize Octets := ⟨List.length⟩

/-- A pair in its slot. -/
structure Slot (V : Type) where
  /-- The key of the pair. -/
  key : String
  /-- The value of the pair. -/
  value : V
  /-- The slot of the next newer pair. -/
  newer : Option Nat := none
  /-- The slot of the next older pair. -/
  older : Option Nat := none

/-- Pairs in slots, linked by recency. -/
structure Store (V : Type) where
  /-- How many octets the pairs may cost; zero is no limit. -/
  budget : Nat
  /-- How many octets the pairs cost. -/
  used : Nat := 0
  /-- The slots, without gaps. -/
  slots : Array (Slot V) := #[]
  /-- The slot of each key. -/
  index : Std.HashMap String Nat := {}
  /-- The slot of the newest pair. -/
  newest : Option Nat := none
  /-- The slot of the oldest pair. -/
  oldest : Option Nat := none

variable {V : Type}

/-- The octets that a key and a value cost. -/
def cost [HasSize V] (key : String) (value : V) : Nat :=
  key.utf8ByteSize + HasSize.size value

namespace Store

/-- A store without pairs. -/
def empty (budget : Nat) : Store V :=
  { budget := budget }

/-- The number of pairs. -/
def size (store : Store V) : Nat :=
  store.slots.size

/-- Whether a key has a value; this does not make the key more recent. -/
def contains (store : Store V) (key : String) : Bool :=
  store.index.contains key

/-- The pairs from a slot on to the oldest one, at most so many. -/
def entriesFrom (store : Store V) : Nat -> Option Nat -> List (String × V)
  | 0, _ => []
  | _, none => []
  | steps + 1, some place =>
      match store.slots[place]? with
      | none => []
      | some slot => (slot.key, slot.value) :: entriesFrom store steps slot.older

/-- The pairs, newest first. -/
def entries (store : Store V) : List (String × V) :=
  store.entriesFrom store.size store.newest

/-! ## Links -/

/-- Make `older` the neighbour of `place` on the older side; no place means the
newest end. -/
def linkOlder (store : Store V) (place older : Option Nat) : Store V :=
  match place with
  | none => { store with newest := older }
  | some place =>
      { store with slots := store.slots.modify place fun slot => { slot with older := older } }

/-- Make `newer` the neighbour of `place` on the newer side; no place means the
oldest end. -/
def linkNewer (store : Store V) (place newer : Option Nat) : Store V :=
  match place with
  | none => { store with oldest := newer }
  | some place =>
      { store with slots := store.slots.modify place fun slot => { slot with newer := newer } }

/-- Take a slot out of the links. -/
def detach (store : Store V) (place : Nat) : Store V :=
  match store.slots[place]? with
  | none => store
  | some slot =>
      ((((store.linkOlder slot.newer slot.older).linkNewer slot.older slot.newer).linkOlder
        (some place) none).linkNewer (some place) none)

/-- Link a slot that is out of the links as the newest one. -/
def attach (store : Store V) (place : Nat) : Store V :=
  let front := store.newest
  (((store.linkNewer (some place) none).linkOlder (some place) front).linkNewer front
    (some place)).linkOlder none (some place)

/-- Make a slot the newest one. -/
def promote (store : Store V) (place : Nat) : Store V :=
  if store.newest = some place then store else (store.detach place).attach place

/-- Free a slot that is out of the links; the last slot moves into it. -/
def vacate (store : Store V) (place : Nat) : Store V :=
  match store.slots.back? with
  | none => store
  | some last =>
      let store := { store with slots := (store.slots.setIfInBounds place last).pop }
      if place < store.slots.size then
        let store := (store.linkOlder last.newer (some place)).linkNewer last.older (some place)
        { store with index := store.index.insert last.key place }
      else store

/-! ## Operations -/

/-- The value of a key, which becomes the most recent. -/
def get? (store : Store V) (key : String) : Option (V × Store V) := do
  let place ← store.index[key]?
  let slot ← store.slots[place]?
  return (slot.value, store.promote place)

/-- The least recent pair and the store without it. -/
def popOldest? [HasSize V] (store : Store V) : Option ((String × V) × Store V) := do
  let place ← store.oldest
  let slot ← store.slots[place]?
  let store := (store.detach place).vacate place
  return ((slot.key, slot.value),
    { store with
      index := store.index.erase slot.key
      used := store.used - cost slot.key slot.value })

/-- Whether the pairs cost more than the budget allows. -/
def isOver (store : Store V) : Bool :=
  store.budget != 0 && store.budget < store.used

/-- Evict pairs until the budget is kept, at most so many, and list them in the
order of eviction. -/
def evict [HasSize V] (store : Store V) : Nat -> Store V × List (String × V)
  | 0 => (store, [])
  | steps + 1 =>
      if store.isOver then
        match store.popOldest? with
        | none => (store, [])
        | some (pair, store) =>
            let evicted := evict store steps
            (evicted.1, pair :: evicted.2)
      else (store, [])

/-- Write a value to a key that has none. -/
def push [HasSize V] (store : Store V) (key : String) (value : V) : Store V :=
  let place := store.slots.size
  let pushed : Store V :=
    { store with
      slots := store.slots.push { key := key, value := value }
      index := store.index.insert key place
      used := store.used + cost key value }
  pushed.attach place

/-- Write a value over that of a slot. -/
def replace [HasSize V] (store : Store V) (place : Nat) (slot : Slot V) (value : V) : Store V :=
  let replaced : Store V :=
    { store with
      slots := store.slots.setIfInBounds place { slot with value := value }
      used := store.used - HasSize.size slot.value + HasSize.size value }
  replaced.promote place

/-- Write a value to a key, which becomes the most recent, and evict what is
then too much. A value that is written over is not evicted. -/
def put [HasSize V] (store : Store V) (key : String) (value : V) :
    Store V × List (String × V) :=
  let written :=
    match store.index[key]? with
    | none => store.push key value
    | some place =>
        match store.slots[place]? with
        | none => store.push key value
        | some slot => store.replace place slot value
  written.evict written.size

/-- The diagnostic line of a store. -/
def describe (store : Store V) : String :=
  "LruCache \x7b max_bytes: " ++ toString store.budget ++ ", used_bytes: " ++
    toString store.used ++ ", len: " ++ toString store.size ++ " \x7d"

end Store

end RingCache.Recency
