import RingCache.Ascending
import RingCache.Counters
import RingCache.Failure

/-!
# Reports of a node

The JSON values in which a node shows its counters, its health and its
failures.
-/

namespace RingCache.Report

/-- The counters of groups by name, ascending; the last group of a name stays. -/
def counters (groups : List (String × Snapshot)) : Json.Value :=
  .object [("groups", .object ((Ascending.ofList groups).map fun group =>
    (group.1, group.2.toJson)))]

/-- The health of a node at a time, with the names of its groups and its
peers. -/
def health (time : String) (groups peers : List String) : Json.Value :=
  .object [("status", .string "healthy"), ("timestamp", .string time),
    ("groups", .strings groups), ("peers", .strings peers)]

/-- A failure. -/
def failure (cause : Failure) : Json.Value :=
  .object [("error", .string cause.message)]

end RingCache.Report
