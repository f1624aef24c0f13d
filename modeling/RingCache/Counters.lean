import RingCache.Decimal.Shortest
import RingCache.Json.Value

/-!
# Counters of lookups

What a group counts, and snapshots of the counters together with what the group
keeps. The hit rate is a quotient of two counters, each of them rounded to a
binary number first.
-/

namespace RingCache

/-- What can be counted. -/
inductive Counter where
  /-- A lookup of a key that is not empty. -/
  | get
  /-- A lookup answered from what the group keeps. -/
  | hit
  /-- A lookup that needs a load. -/
  | load
  /-- A lookup that shared another lookup's load. -/
  | sharedLoad
  /-- A value fetched from a peer. -/
  | peerLoad
  /-- A fetch that failed. -/
  | peerError
  /-- A value from the source. -/
  | localLoad
  /-- A failure of the source. -/
  | localError
  /-- A pair forgotten to keep the budget. -/
  | eviction
  deriving Repr, DecidableEq

/-- How often each thing happened. -/
structure Counters where
  /-- Lookups of keys that are not empty. -/
  gets : Nat := 0
  /-- Lookups answered from what the group keeps. -/
  hits : Nat := 0
  /-- Lookups that needed a load. -/
  loads : Nat := 0
  /-- Lookups that shared another lookup's load. -/
  sharedLoads : Nat := 0
  /-- Values fetched from peers. -/
  peerLoads : Nat := 0
  /-- Fetches that failed. -/
  peerErrors : Nat := 0
  /-- Values from the source. -/
  localLoads : Nat := 0
  /-- Failures of the source. -/
  localErrors : Nat := 0
  /-- Pairs forgotten to keep the budget. -/
  evictions : Nat := 0
  deriving Repr, DecidableEq

/-- Count a thing so many times. -/
def Counters.add (counters : Counters) (counter : Counter) (times : Nat) : Counters :=
  match counter with
  | .get => { counters with gets := counters.gets + times }
  | .hit => { counters with hits := counters.hits + times }
  | .load => { counters with loads := counters.loads + times }
  | .sharedLoad => { counters with sharedLoads := counters.sharedLoads + times }
  | .peerLoad => { counters with peerLoads := counters.peerLoads + times }
  | .peerError => { counters with peerErrors := counters.peerErrors + times }
  | .localLoad => { counters with localLoads := counters.localLoads + times }
  | .localError => { counters with localErrors := counters.localErrors + times }
  | .eviction => { counters with evictions := counters.evictions + times }

/-- Count a thing once. -/
def Counters.count (counters : Counters) (counter : Counter) : Counters :=
  counters.add counter 1

/-- Counters at a moment, with what the group keeps then. -/
structure Snapshot extends Counters where
  /-- How many pairs the group keeps. -/
  entries : Nat := 0
  /-- How many octets the pairs cost. -/
  bytes : Nat := 0
  deriving Repr, DecidableEq

/-- The diagnostic names of the counters, with their values. -/
def Counters.fields (counters : Counters) : List (String × Nat) :=
  [("gets", counters.gets), ("hits", counters.hits), ("loads", counters.loads),
    ("loads_deduped", counters.sharedLoads), ("peer_loads", counters.peerLoads),
    ("peer_errors", counters.peerErrors), ("local_loads", counters.localLoads),
    ("local_load_errors", counters.localErrors), ("evictions", counters.evictions)]

/-- The diagnostic line of the counters. -/
def Counters.describe (counters : Counters) : String :=
  "GroupStats \x7b " ++
    String.intercalate ", "
      (counters.fields.map fun field => field.1 ++ ": " ++ toString field.2) ++
    " \x7d"

namespace Snapshot

/-- The names under which a snapshot's numbers are reported, in order. -/
def fields (snapshot : Snapshot) : List (String × Nat) :=
  snapshot.toCounters.fields ++ [("entries", snapshot.entries), ("bytes", snapshot.bytes)]

/-- The snapshot whose numbers these are, in the order of `fields`. -/
def ofNumbers? : List Nat -> Option Snapshot
  | [gets, hits, loads, sharedLoads, peerLoads, peerErrors, localLoads, localErrors, evictions,
      entries, bytes] =>
      some ⟨⟨gets, hits, loads, sharedLoads, peerLoads, peerErrors, localLoads, localErrors,
        evictions⟩, entries, bytes⟩
  | _ => none

/-- Rates are written with a plain point from `0.00001` up to below `10 ^ 16`. -/
def rateLayout : Decimal.Layout :=
  { plainFrom := -5, plainBelow := 16, mark := 'e', plus := true }

/-- The share of lookups that were answered from what the group keeps, in the
fewest digits that identify it; zero before the first lookup. -/
def hitRate (snapshot : Snapshot) : String :=
  if snapshot.gets = 0 ∨ snapshot.hits = 0 then "0.0"
  else
    let rate := Decimal.Binary.quotient (.ofNat snapshot.hits) (.ofNat snapshot.gets)
    String.ofList (rateLayout.chars (Decimal.Shortest.ofBinary rate))

/-- A snapshot as a report shows it. -/
def toJson (snapshot : Snapshot) : Json.Value :=
  .object (snapshot.fields.map (fun field => (field.1, .ofNat field.2)) ++
    [("hit_rate", .number snapshot.hitRate)])

end Snapshot

end RingCache
