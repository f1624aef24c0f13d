import RingCache.Outcome

/-!
# Sources

What a group loads its values from when no peer has them. A source sees how
many calls came before, so that it can be a queue of answers as well as a
function of the key; a source that may keep its caller waiting replies `held`.
-/

namespace RingCache

/-- Where values come from. -/
structure Source where
  /-- The reply to a call for a key, after so many earlier calls. -/
  load : Nat -> String -> Reply

namespace Source

/-- The source that computes octets, or the text of a failure, from the key. -/
def ofFunction (load : String -> Except String Octets) : Source where
  load _ key :=
    match load key with
    | .ok octets => .now (.value octets)
    | .error text => .now (.chain [text])

/-- The source that knows the values of some keys. -/
def table (values : List (String × Octets)) : Source :=
  ofFunction fun key =>
    match values.lookup key with
    | some octets => .ok octets
    | none => .error (key ++ " not exist")

/-- A small table of scores, for demonstrations. -/
def scores : Source :=
  table [("Tom", Utf8.encode "630"), ("Jack", Utf8.encode "589"), ("Sam", Utf8.encode "567")]

/-- The source whose every call is held. -/
def held : Source where
  load _ _ := .held

end Source

end RingCache
