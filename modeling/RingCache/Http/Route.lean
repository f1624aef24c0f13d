import RingCache.Http.Message

/-!
# Routes of a node

Which part of a node a path leads to. Four forms of paths have a part of their
own and take certain methods only; every other path, with any method, leads to
the endpoint for peers. Paths are compared as they stand, before any escape is
read.
-/

namespace RingCache.Http

/-- The part of a node that a path leads to. -/
inductive Route where
  /-- The value of a group's key; both are still percent-encoded. -/
  | value (group key : String)
  /-- The peers of the node. -/
  | peers
  /-- The counters of the node. -/
  | stats
  /-- The health of the node. -/
  | health
  /-- The endpoint for peers. -/
  | exchange
  deriving Repr, DecidableEq

namespace Route

/-- The segments of a path, with the empty one before its first slash. -/
def segments (path : String) : List String :=
  (path.toList.splitOn '/').map String.ofList

/-- The route of a path. A key is never empty, while a group may be. -/
def ofPath (path : String) : Route :=
  match segments path with
  | ["", "peers"] => .peers
  | ["", "stats"] => .stats
  | ["", "health"] => .health
  | ["", "api", group, key] => if key.isEmpty then .exchange else .value group key
  | _ => .exchange

/-- The methods that a route takes, if it does not take all. -/
def methods? : Route -> Option (List String)
  | .value _ _ => some ["GET", "HEAD"]
  | .peers => some ["PUT"]
  | .stats => some ["GET", "HEAD"]
  | .health => some ["GET", "HEAD"]
  | .exchange => none

/-- The header that lists the methods of a route. -/
def withAllow (route : Route) (response : Response) : Response :=
  match route.methods? with
  | some methods => response.withHeader "allow" (String.intercalate "," methods)
  | none => response

/-- Whether a route takes a method. -/
def takes (route : Route) (method : String) : Bool :=
  route.methods?.all fun methods => methods.contains method

end Route

end RingCache.Http
