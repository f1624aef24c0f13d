import RingCache.Node

/-!
# Clusters

Nodes under addresses, and hosts that are no nodes, on one network. A request
that a client has sent goes to whoever is registered under the authority of
its URL, and a host may send the client on, to another host or to a node. A node
may have to ask a further node before it can answer, which a bound on such hops
keeps finite: every node looks a key up once at most, and the keys are the one
that was looked up first and those to which hosts send clients. A request that
goes in a circle waits for itself and is given up.

`lookups`, `fetch` and `serve` answer what became of the cluster, what was
seen on the way, and the results.
-/

namespace RingCache

open Http

/-- Somebody on the network who is no node. -/
inductive Host where
  /-- Answers every request with an envelope of its URL. -/
  | echo
  /-- Ends every connection before an answer. -/
  | down
  /-- Answers every request alike, perhaps with the same location each time. -/
  | fixed (status : Nat) (body : Octets) (cut : Bool) (location : Option String := none)
  deriving Repr, DecidableEq

/-- What a host makes of a request. -/
def Host.deliver (url : Url) : Host -> Delivery
  | .echo =>
      let asked := Utf8.encode { url with fragment := none : Url }.text
      .answered 200 (Utf8.encode (Envelope.ofOctets asked).toJson.render) false
  | .down => .lost
  | .fixed status body cut location => .answered status body cut location

/-- A node with the authority under which the network knows it. -/
structure Member where
  /-- The node. -/
  node : Node
  /-- The host and port of its address, if it has one. -/
  authority : Option String

/-- Nodes and hosts on one network. -/
structure Cluster where
  /-- The nodes. -/
  members : List Member
  /-- The other hosts; the one under `*` stands for all that are not named. -/
  hosts : List (String × Host) := []

/-- What can be seen of a cluster at work. -/
inductive Sight where
  /-- A request on the network. -/
  | request (url : Url)
  /-- A call of the source of a node's group. -/
  | load (node : Nat) (group key : String)

/-- Who receives a request. -/
inductive Recipient where
  /-- The node with a number. -/
  | node (index : Nat)
  /-- A host. -/
  | host (host : Host)

/-- Where a request ends that hosts may send on. -/
inductive Landing where
  /-- At the node with a number, which is asked for a URL. -/
  | node (index : Nat) (url : Url)
  /-- At no node: the client has this result. -/
  | settled (result : Result)

namespace Cluster

/-- The authority in the text of an address, as it stands there. -/
def authorityOf (address : String) : String :=
  let text := address.toList
  let rest := (['h', 't', 't', 'p', ':', '/', '/'].isPrefixOf? text).getD text
  String.ofList (rest.takeWhile (· != '/'))

/-- The node with a number. -/
def node? (cluster : Cluster) (index : Nat) : Option Node :=
  cluster.members[index]?.map Member.node

/-- Change a node. -/
def setNode (cluster : Cluster) (index : Nat) (node : Node) : Cluster :=
  { cluster with members := cluster.members.modify index fun member =>
      { member with node := node } }

/-- Who receives requests for an authority. -/
def recipient (cluster : Cluster) (authority : String) : Recipient :=
  match cluster.members.findIdx? fun member => member.authority == some authority with
  | some index => .node index
  | none =>
      .host (((cluster.hosts.lookup authority).or (cluster.hosts.lookup "*")).getD .down)

/-- Send a request for a URL, to which the text `raw` has led, and let the hosts
send it on so many times. -/
def send (cluster : Cluster) (raw : String) (times : Nat) (url : Url) : List Sight × Landing :=
  match cluster.recipient url.authority with
  | .node index => ([.request url], .node index url)
  | .host host =>
      let delivery := host.deliver url
      match Client.redirect? url delivery, times with
      | none, _ => ([.request url], .settled (Client.receive raw url delivery))
      | some _, 0 =>
          ([.request url], .settled (.error (Client.Fault.redirected raw url).failure))
      | some location, times + 1 =>
          match Transport.permit raw location with
          | .error fault => ([.request url], .settled (.error fault.failure))
          | .ok next =>
              match cluster.send raw times next with
              | (sights, landing) => (.request url :: sights, landing)

/-- What a node's response is to a client. -/
def delivered (response : Response) : Delivery :=
  .answered response.status response.body false

/-- An event happens to a group of a node. -/
def step (cluster : Cluster) (index number : Nat) (event : Group.Event) :
    Cluster × List (Notice Call Result) :=
  match cluster.node? index with
  | none => (cluster, [])
  | some node =>
      let stepped := node.registry.step number event
      (cluster.setNode index { node with registry := stepped.1 }, stepped.2)

/-- So many lookups of a key start, one after the other. -/
def start (cluster : Cluster) (index number : Nat) (key : String) :
    Nat -> Cluster × List (Notice Call Result)
  | 0 => (cluster, [])
  | count + 1 =>
      let started := cluster.step index number (.lookup key)
      let others := start started.1 index number key count
      (others.1, started.2 ++ others.2)

/-- The peer and the group's name for which the pass of a key waits. -/
def awaited? (cluster : Cluster) (index number : Nat) (key : String) :
    Option (Client × String) := do
  let node ← cluster.node? index
  let group ← node.registry.groups[number]?
  match group.stage? key with
  | some (.fetching peer) => return (⟨peer.address⟩, group.name)
  | _ => none

/-- The calls of the source among notices of a node's group. -/
def loadsOf (index : Nat) (group : String) (notices : List (Notice Call Result)) : List Sight :=
  notices.filterMap fun
    | .called _ (.load key) => some (.load index group key)
    | _ => none

/-- The results among notices, with the numbers of the lookups. -/
def resultsOf (notices : List (Notice Call Result)) : List (Nat × Result) :=
  notices.filterMap fun
    | .ended id _ (.returned result) => some (id, result)
    | _ => none

/-- The name of a node's group. -/
def groupName (cluster : Cluster) (index number : Nat) : String :=
  ((cluster.node? index).bind fun node => node.registry.groups[number]?).elim "" Group.name

/-- Results in the order of their lookups. -/
def inOrder (results : List (Nat × Result)) : List Result :=
  (Ascending.ofList results).map Prod.snd

/-- What a client's request for a URL comes to at a node. Only the method and
the path reach it, and no answer of use to a client shows the time. -/
def asked? (cluster : Cluster) (index : Nat) (url : Url) : Option Decision :=
  (cluster.node? index).map fun node => node.decide "" (.get url.path)

mutual

/-- Look a key up so many times at once in a node's group, and list the
results in the order of the lookups. There are none when an earlier lookup's
pass is waiting already: then this one waits for itself. -/
def lookups : Nat -> Cluster -> Nat -> Nat -> String -> Nat ->
    Cluster × List Sight × List Result
  | 0, cluster, _, _, _, _ => (cluster, [], [])
  | hops + 1, cluster, index, number, key, count =>
      let name := cluster.groupName index number
      let started := cluster.start index number key count
      let seen := loadsOf index name started.2
      match cluster.awaited? index number key, started.1.awaited? index number key with
      | some _, _ => (started.1, seen, [])
      | none, none => (started.1, seen, inOrder (resultsOf started.2))
      | none, some (client, group) =>
          match fetch hops started.1 client group key with
          | (cluster, sights, none) =>
              (cluster, seen ++ sights, inOrder (resultsOf started.2))
          | (cluster, sights, some result) =>
              let outcome := match result with
                | .ok octets => Outcome.value octets
                | .error cause => Outcome.failure cause
              let finished := cluster.step index number (.finish key outcome)
              (finished.1, seen ++ sights ++ loadsOf index name finished.2,
                inOrder (resultsOf (started.2 ++ finished.2)))

/-- Send a request for a group's key to a peer; there is no result when the
request is given up. -/
def fetch : Nat -> Cluster -> Client -> String -> String ->
    Cluster × List Sight × Option Result
  | 0, cluster, _, _, _ => (cluster, [], none)
  | hops + 1, cluster, client, group, key =>
      let raw := client.url group key
      match Transport.target raw with
      | .error fault => (cluster, [], some (.error fault.failure))
      | .ok url =>
          match cluster.send raw Client.mostRedirects url with
          | (sights, .settled result) => (cluster, sights, some result)
          | (sights, .node index url) =>
              match cluster.asked? index url with
              | some (.lookup number key answer) =>
                  match lookups hops cluster index number key 1 with
                  | (cluster, later, result :: _) =>
                      (cluster, sights ++ later,
                        some (Client.receive raw url (delivered (answer result))))
                  | (cluster, later, []) => (cluster, sights ++ later, none)
              | some (.respond response) =>
                  (cluster, sights, some (Client.receive raw url (delivered response)))
              | _ => (cluster, sights, some (Client.receive raw url .lost))

end

/-- How many hops a request may need: each node twice for each key, once to look
the key up and once to be asked for it, and the first lookup. -/
def hops (cluster : Cluster) : Nat :=
  2 * cluster.members.length * (cluster.hosts.length + 1) + 2

/-- Look a key up so many times at once in the group of a name. -/
def get? (cluster : Cluster) (index : Nat) (group key : String) (count : Nat) :
    Option (Cluster × List Sight × List Result) := do
  let node ← cluster.node? index
  let number ← node.registry.number? group
  return lookups cluster.hops cluster index number key count

/-- What a client knows at once of a fetch, or else what the network makes of
it. -/
def ask (cluster : Cluster) (transport : Transport) (client : Client) (group key : String) :
    Cluster × List Sight × Option Result :=
  match transport (client.url group key) with
  | .now outcome => (cluster, [], outcome.result?)
  | .held => fetch cluster.hops cluster client group key

/-- A node answers a request at a time. -/
def serve (cluster : Cluster) (index : Nat) (time : String) (request : Request) :
    Cluster × List Sight × Option Response :=
  match cluster.node? index with
  | none => (cluster, [], none)
  | some node =>
      match node.decide time request with
      | .respond response => (cluster, [], some response)
      | .replacePeers peers =>
          let node := node.setPeers peers
          (cluster.setNode index node, [], some node.peersResponse)
      | .lookup number key answer =>
          let looked := lookups cluster.hops cluster index number key 1
          (looked.1, looked.2.1, looked.2.2.head?.map answer)

end Cluster

end RingCache
