import RingCache.Config
import RingCache.Http.MediaType
import RingCache.Http.Route
import RingCache.PeerList
import RingCache.PeerPath
import RingCache.Pool
import RingCache.Registry

/-!
# Nodes

A node serves groups to clients and to other nodes. Most requests are answered
from what the node knows; a request for a value needs a lookup, whose result
may have to wait for a peer. So `decide` says what a request comes to
(`Decision`), and whoever drives the node does it.
-/

namespace RingCache

open Http

/-- A node: its groups, its peers, and the base path of its endpoint for
peers. -/
structure Node where
  /-- The groups. -/
  registry : Registry := {}
  /-- The peers, unless the node runs on its own. -/
  pool : Option Pool := none
  /-- The base path of the endpoint for peers. -/
  basePath : String := Address.defaultBasePath
  /-- The numbers of the groups that ask the pool. -/
  askers : List Nat := []

/-- What a request comes to. -/
inductive Decision where
  /-- A response; nothing changes. -/
  | respond (response : Response)
  /-- New peers for the node, and then the list of them. -/
  | replacePeers (peers : List String)
  /-- A lookup of a key in the group with a number, and the response to its
  result. -/
  | lookup (number : Nat) (key : String) (answer : Result -> Response)

namespace Decision

/-- Change the response that a decision leads to. -/
def mapResponse (change : Response -> Response) : Decision -> Decision
  | .respond response => .respond (change response)
  | .replacePeers peers => .replacePeers peers
  | .lookup number key answer => .lookup number key fun result => change (answer result)

end Decision

namespace Node

/-- Give a node a pool, whose base path is that of the endpoint for peers. No group
asks it yet. -/
def withPool (node : Node) (pool : Pool) : Node :=
  { node with pool := some pool, basePath := pool.basePath, askers := [] }

/-- Let the group with a number ask the node's pool, if there is one. A group that
asks somebody already goes on to do so. -/
def enlist (node : Node) (number : Nat) : Node :=
  match node.pool, node.registry.groups[number]? with
  | some pool, some group =>
      match group.register pool.picker with
      | .error _ => node
      | .ok group =>
          { node with
            registry := { node.registry with groups := node.registry.groups.set number group }
            askers := number :: node.askers }
  | _, _ => node

/-- Let all groups ask the node's pool. -/
def enlistAll (node : Node) : Node :=
  (List.range node.registry.groups.length).foldl enlist node

/-- A group that asks somebody asks the peers of a pool in their place. -/
def repick (pool : Pool) (group : Group) : Group :=
  { group with
    world := { group.world with picker := group.world.picker.map fun _ => pool.picker } }

/-- Replace the peers of a node; the groups that ask its pool ask the new ones, and
the others ask whom they asked. -/
def setPeers (node : Node) (peers : List String) : Node :=
  match node.pool with
  | none => node
  | some pool =>
      let pool := pool.setPeers peers
      { node with
        registry := { node.registry with
          groups := node.registry.groups.mapIdx fun number group =>
            if node.askers.contains number then repick pool group else group }
        pool := some pool }

/-- The addresses of a node's peers. -/
def peers (node : Node) : List String :=
  node.pool.elim [] Pool.peers

/-- The node that a configuration describes, with one group. -/
def ofConfig (config : Config) (source : Source) (transport : Transport) : Node :=
  let pool := (Pool.create config.address config.basePath config.replicas transport).setPeers
    config.peers
  let node : Node := { registry := Registry.create {} config.group config.budget source }
  (node.withPool pool).enlist 0

/-- The lookup of a key in the group of a name. -/
def look (node : Node) (sealed : Bool) (group key : String) : Decision :=
  match node.registry.number? group with
  | none => .respond (Response.failure (.unknownGroup group))
  | some number => .lookup number key (Response.ofResult sealed)

/-- A request for the value of a group's key, both percent-encoded. -/
def decideValue (node : Node) (group key : String) : Decision :=
  match Percent.decode group, Percent.decode key with
  | .ok group, .ok key => node.look false group key
  | _, _ => .respond (Response.rejection 400)

/-- A request of a peer. -/
def decideExchange (node : Node) (path : String) : Decision :=
  match PeerPath.split node.basePath path with
  | .ok (group, key) => node.look true group key
  | .error fault => .respond (Response.failure (.malformedRequest fault.message))

/-- The longest body that a node reads. -/
def bodyLimit : Nat := 2 * 1024 * 1024

/-- A request for new peers. -/
def decidePeers (node : Node) (request : Request) : Decision :=
  if !(request.header? "content-type").any MediaType.isJson then
    .respond (Response.rejection 415)
  else if bodyLimit < request.body.length then .respond (Response.rejection 413)
  else
    match PeerList.readBody request.body with
    | .error .mismatched => .respond (Response.rejection 422)
    | .error _ => .respond (Response.rejection 400)
    | .ok peers =>
        match PeerList.fault? peers, node.pool with
        | some fault, _ => .respond (Response.failure (.malformedRequest fault.message))
        | none, none => .respond (Response.failure (.internal "node has no peer pool"))
        | none, some _ => .replacePeers peers

/-- What a request on a route comes to, the method being one that the route
takes. -/
def decideRoute (node : Node) (time : String) (request : Request) : Route -> Decision
  | .value group key => node.decideValue group key
  | .peers => node.decidePeers request
  | .stats => .respond (Response.json 200 (Report.counters node.registry.snapshots))
  | .health => .respond (Response.json 200 (Report.health time node.registry.names node.peers))
  | .exchange => node.decideExchange request.path

/-- What a request comes to at a time. The endpoint for peers answers a `HEAD`
request with the body it would have for a `GET`, the other routes without. -/
def decide (node : Node) (time : String) (request : Request) : Decision :=
  let route := Route.ofPath request.path
  if request.method = "OPTIONS" then .respond (route.withAllow Response.preflight)
  else if !route.takes request.method then
    .respond (route.withAllow { status := 405 : Response }.anyOrigin)
  else
    let decision := (node.decideRoute time request route).mapResponse Response.anyOrigin
    if request.method = "HEAD" && route != .exchange then
      decision.mapResponse Response.withoutBody
    else decision

/-- The response to new peers, once the node has them. -/
def peersResponse (node : Node) : Response :=
  (Response.json 200 (PeerList.answer node.peers)).anyOrigin

end Node

end RingCache
