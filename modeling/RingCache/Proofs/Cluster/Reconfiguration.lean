import RingCache.Proofs.Cluster.Exchanges
import RingCache.Proofs.Node.PeerLists
import RingCache.Proofs.Pool.Topology

/-!
# New peers for a node

A request for new peers is refused, and then the whole cluster stays as it was, or all peers of the
node are replaced at once. From then on the node has the new pool, and the groups that asked the one
before ask it: no event and no other request changes either (`Cluster.AsksAt.later`). What the pool
picks is decided by the new list alone (`Cluster.peers_are_replaced_or_kept`).
-/

namespace RingCache

open Http
open Address (HasScheme)

/-! ## Nodes that ask a pool -/

namespace Node

/-- Whether the group with a number asks the pool of its node. -/
def AsksPool (node : Node) (number : Nat) : Prop :=
  number ∈ node.askers ∧
    ∃ group, node.registry.groups[number]? = some group ∧ group.world.picker.isSome

/-- Whether a node has a pool, and its groups with certain numbers ask it. -/
structure Asks (node : Node) (pool : Pool) (numbers : Nat → Prop) : Prop where
  told : node.pool = some pool
  groups : ∀ number group, node.registry.groups[number]? = some group → numbers number →
    group.world.picker = some pool.picker

variable {node : Node} {pool : Pool} {numbers : Nat → Prop}

/-- A group that is not listed to ask the pool stays as it is. -/
theorem groups_setPeers_other (peers : List String) {number : Nat} (other : number ∉ node.askers) :
    (node.setPeers peers).registry.groups[number]? = node.registry.groups[number]? := by
  cases isPool : node.pool with
  | none => rw [setPeers, isPool]
  | some pool =>
      rw [groups_setPeers isPool]
      simp [other]

/-- The groups of a node that ask its pool ask the new pool. -/
theorem asks_setPeers (isPool : node.pool = some pool) (peers : List String) :
    (node.setPeers peers).Asks (pool.setPeers peers) node.AsksPool := by
  refine ⟨by rw [setPeers, isPool], fun number group found asker => ?_⟩
  obtain ⟨listed, before, present, asks⟩ := asker
  rw [groups_setPeers isPool, present] at found
  obtain ⟨picker, isPicker⟩ := Option.isSome_iff_exists.mp asks
  rw [← Option.some.inj found]
  simp [listed, repick, isPicker]

/-- An event at one of its groups does not change whom a node asks. -/
theorem Asks.step (asks : node.Asks pool numbers) (number : Nat) (event : Group.Event) :
    Asks { node with registry := (node.registry.step number event).1 } pool numbers := by
  refine ⟨asks.told, fun other after found listed => ?_⟩
  rw [Registry.groups_step] at found
  obtain ⟨before, present, rfl⟩ := Option.map_eq_some_iff.mp found
  have asked := asks.groups other before present listed
  split
  · exact (GroupState.picker_of_nature (Group.nature_step asked event)).trans asked
  · exact asked

end Node

namespace Cluster

/-- Whether the node with a number has a pool, and certain groups ask it. -/
def AsksAt (index : Nat) (pool : Pool) (numbers : Nat → Prop) (cluster : Cluster) : Prop :=
  ∃ node, cluster.node? index = some node ∧ node.Asks pool numbers

/-- What may become of a cluster while a node is given no other peers: events happen to groups, and
nodes answer requests. -/
inductive Later (index : Nat) (cluster : Cluster) : Cluster → Prop where
  | now : Later index cluster cluster
  | event {next : Cluster} (prior : Later index cluster next) (other number : Nat)
      (event : Group.Event) : Later index cluster (next.step other number event).1
  | request {next : Cluster} (prior : Later index cluster next) (other : Nat) (time : String)
      (request : Request)
      (spares : other = index → ∀ node peers, next.node? index = some node →
        node.decide time request ≠ .replacePeers peers) :
      Later index cluster (next.serve other time request).1

variable {cluster next : Cluster} {index : Nat} {pool : Pool} {numbers : Nat → Prop}

theorem keptByEvents_asksAt (index : Nat) (pool : Pool) (numbers : Nat → Prop) :
    KeptByEvents (AsksAt index pool numbers) := by
  rintro cluster other number event ⟨node, present, asks⟩
  rw [AsksAt, node?_step, present, Option.map_some]
  split
  · exact ⟨_, rfl, asks.step number event⟩
  · exact ⟨node, rfl, asks⟩

/-- What every event keeps, and every change of another node, holds until the node is given other
peers. -/
theorem KeptByEvents.later {holds : Cluster → Prop} (kept : KeptByEvents holds)
    (spares : ∀ cluster other node, other ≠ index → holds cluster →
      holds (cluster.setNode other node))
    (now : holds cluster) (later : Later index cluster next) : holds next := by
  induction later with
  | now => exact now
  | event prior other number event inductionHypothesis =>
      exact kept _ other number event inductionHypothesis
  | @request before prior other time request unchanged inductionHypothesis =>
      rcases serve_cases before other time request with
        same | ⟨asked, peers, present, decided, replaced⟩ | ⟨number, key, looked⟩
      · rwa [same]
      · rw [replaced]
        have differs : other ≠ index := fun isNode =>
          unchanged isNode asked peers (isNode ▸ present) decided
        exact spares _ other _ differs inductionHypothesis
      · rw [looked]
        exact kept.lookups inductionHypothesis before.hops other number key 1

/-- A node asks its pool until it is given other peers. -/
theorem AsksAt.later (asks : AsksAt index pool numbers cluster)
    (later : Later index cluster next) : AsksAt index pool numbers next := by
  refine (keptByEvents_asksAt index pool numbers).later ?_ asks later
  rintro before other changed differs ⟨node, found, stillAsks⟩
  refine ⟨node, ?_, stillAsks⟩
  rw [node?_setNode, found, Option.map_some, if_neg (Ne.symm differs)]

/-! ## Requests for new peers -/

/-- A request for new peers is refused as `Node.Refuses` says and leaves everything as it was, or
the node replaces its peers and lists them. -/
theorem serve_givesPeers {node : Node} (present : cluster.node? index = some node) (time : String)
    {request : Request} (gives : request.GivesPeers) :
    (∃ response, cluster.serve index time request = (cluster, [], some response.anyOrigin) ∧
      node.Refuses request.body response) ∨
    ∃ peers pool, cluster.serve index time request =
        (cluster.setNode index (node.setPeers peers), [],
          some (node.setPeers peers).peersResponse) ∧
      PeerList.readBody request.body = .ok peers ∧ PeerList.Accepted peers ∧
        node.pool = some pool := by
  rcases node.decidePeers_cases gives with
    ⟨response, decided, refuses⟩ | ⟨peers, pool, decided, reads, accepted, isPool⟩
  · refine .inl ⟨response, ?_, refuses⟩
    simp only [Cluster.serve, present, node.decide_of_givesPeers time gives, decided,
      Decision.mapResponse]
  · refine .inr ⟨peers, pool, ?_, reads, accepted, isPool⟩
    simp only [Cluster.serve, present, node.decide_of_givesPeers time gives, decided,
      Decision.mapResponse]

/-- A node with a pool replaces its peers by every list that is accepted, and asks the new pool
until it is given other peers. -/
theorem asksAt_of_accepted {node : Node} (present : cluster.node? index = some node)
    (isPool : node.pool = some pool) (time : String) {request : Request}
    (gives : request.GivesPeers) {peers : List String}
    (reads : PeerList.readBody request.body = .ok peers) (accepted : PeerList.Accepted peers) :
    let served := cluster.serve index time request
    served = (cluster.setNode index (node.setPeers peers), [],
        some (node.setPeers peers).peersResponse) ∧
      (node.setPeers peers).pool = some (pool.setPeers peers) ∧
      ∀ next, Later index served.1 next →
        AsksAt index (pool.setPeers peers) node.AsksPool next := by
  intro served
  have asks := Node.asks_setPeers isPool peers
  rcases serve_givesPeers present time gives with
    ⟨response, _, refuses⟩ | ⟨others, _, replaced, alsoReads, _, _⟩
  · rw [refuses.not_accepted reads accepted] at isPool
    cases isPool
  · obtain rfl : peers = others := Except.ok.inj (reads.symm.trans alsoReads)
    refine ⟨replaced, asks.told, fun next later => AsksAt.later ⟨_, ?_, asks⟩ later⟩
    rw [show served.1 = _ from congrArg Prod.fst replaced, node?_setNode, present, Option.map_some,
      if_pos rfl]

/-- A request for new peers is refused, with the response that says why, if its body cannot be read,
if its list is empty or has an address without a scheme, or if the node has no pool. Then the whole
cluster stays as it was, and with it every pool and every group. Otherwise it is answered with the
peers that the node now has. These are the normal forms of the addresses on the list, each once and
in ascending order, and there are some. The new pool picks the client of the owner of a key on a
fresh ring of the list, unless the owner is the node itself. Groups that do not ask the node's pool
stay as they were. Whatever happens then, but for other peers given to this node, the node has the
new pool, and the groups that asked its pool ask this one. -/
theorem peers_are_replaced_or_kept {node : Node} (present : cluster.node? index = some node)
    (time : String) {request : Request} (gives : request.GivesPeers) :
    let served := cluster.serve index time request
    let read := PeerList.readBody request.body
    ((∃ flaw, read = .error flaw) ∨ read = .ok [] ∨
        (∃ peers, read = .ok peers ∧ ∃ peer ∈ peers, ¬ HasScheme peer) ∨ node.pool = none →
      ∃ response, served = (cluster, [], some response.anyOrigin) ∧
        node.Refuses request.body response ∧ response.status ∈ [400, 422, 500]) ∧
    ∀ peers pool, read = .ok peers → peers ≠ [] → (∀ peer ∈ peers, HasScheme peer) →
      node.pool = some pool →
      let renewed := pool.setPeers peers
      (∃ response, served = (cluster.setNode index (node.setPeers peers), [], some response) ∧
        response.status = 200 ∧
        response.body = Utf8.encode (PeerList.answer renewed.peers).render) ∧
      (renewed.peers ≠ [] ∧ renewed.peers.Pairwise (· < ·) ∧ ∀ address,
        address ∈ renewed.peers ↔ ∃ peer ∈ peers, Address.normalize peer = address) ∧
      (∀ key, renewed.pick? key =
        ((Pool.ringOf pool.replicas peers).owner? key).bind fun owner =>
          if owner = pool.self then none else some ⟨owner ++ pool.basePath⟩) ∧
      (∀ number ∉ node.askers, (node.setPeers peers).registry.groups[number]? =
        node.registry.groups[number]?) ∧
      ∀ next, Later index served.1 next → ∃ after, next.node? index = some after ∧
        after.pool = some renewed ∧ ∀ number, node.AsksPool number → ∀ group,
          after.registry.groups[number]? = some group →
            group.world.picker = some renewed.picker := by
  intro served read
  constructor
  · intro faulty
    rcases serve_givesPeers present time gives with
      ⟨response, refused, refuses⟩ | ⟨peers, pool, _, reads, accepted, isPool⟩
    · exact ⟨response, refused, refuses, refuses.status⟩
    · exfalso
      rcases faulty with ⟨flaw, fails⟩ | readsNobody | ⟨others, readsOthers, peer, mem, lacks⟩ | alone
      · cases reads.symm.trans fails
      · cases reads.symm.trans readsNobody
        exact accepted.1 rfl
      · cases reads.symm.trans readsOthers
        exact lacks (accepted.2 peer mem)
      · cases isPool.symm.trans alone
  · intro peers pool reads filled schemes isPool renewed
    have accepted : PeerList.Accepted peers := ⟨filled, schemes⟩
    obtain ⟨replaced, told, asks⟩ := asksAt_of_accepted present isPool time gives reads accepted
    refine ⟨⟨_, replaced, Node.status_peersResponse _, Node.body_peersResponse told⟩,
      accepted.peers_setPeers pool, Pool.pick?_setPeers pool peers,
      fun _ other => Node.groups_setPeers_other peers other, fun next later => ?_⟩
    obtain ⟨after, found, stillAsks⟩ := asks next later
    exact ⟨after, found, stillAsks.told, fun number asked group listed =>
      stillAsks.groups number group listed asked⟩

/-- A node on its own is given a peer, by an address with a blank and a slash after it. The same
list with a further address that has no scheme changes nothing. -/
theorem one_bad_address_keeps_the_others_out :
    let source : Source := .ofFunction fun key => .ok (Utf8.encode key)
    let setup : Setup := ⟨"http://a:1", some "a:1", ["http://a:1"], 1, [("scores", 64, source)]⟩
    let cluster := build [setup] []
    let asking (body : String) := PeerList.request (Utf8.encode body)
    let good := asking "\x7b\"peers\":[\"http://b:2/ \",\"http://a:1\"]\x7d"
    let bad := asking "\x7b\"peers\":[\"http://b:2/ \",\"http://a:1\",\"c:3\"]\x7d"
    let renewed := setup.pool.setPeers ["http://b:2/ ", "http://a:1"]
    (cluster.node? 0 = some setup.node ∧ good.GivesPeers ∧ bad.GivesPeers ∧
      PeerList.readBody good.body = .ok ["http://b:2/ ", "http://a:1"] ∧
      PeerList.readBody bad.body = .ok ["http://b:2/ ", "http://a:1", "c:3"]) ∧
    (∃ response, cluster.serve 0 "" bad = (cluster, [], some response.anyOrigin) ∧
      setup.node.Refuses bad.body response ∧ response.status ∈ [400, 422, 500]) ∧
    (∃ response, (cluster.serve 0 "" good).2.2 = some response ∧ response.status = 200 ∧
      response.body = Utf8.encode (PeerList.answer renewed.peers).render) ∧
    "http://b:2" ∈ renewed.peers ∧
    ∃ after, (cluster.serve 0 "" good).1.node? 0 = some after ∧ after.pool = some renewed ∧
      ∀ group, after.registry.groups[0]? = some group →
        group.world.picker = some renewed.picker := by
  intro source setup cluster asking good bad renewed
  have present : cluster.node? 0 = some setup.node := rfl
  have goodGives : good.GivesPeers := PeerList.givesPeers_request (by decide +kernel)
  have badGives : bad.GivesPeers := PeerList.givesPeers_request (by decide +kernel)
  have readsGood : PeerList.readBody good.body = .ok ["http://b:2/ ", "http://a:1"] := by
    decide +kernel
  have readsBad : PeerList.readBody bad.body = .ok ["http://b:2/ ", "http://a:1", "c:3"] := by
    decide +kernel
  obtain ⟨refuses, _⟩ := peers_are_replaced_or_kept present "" badGives
  obtain ⟨_, replaces⟩ := peers_are_replaced_or_kept present "" goodGives
  obtain ⟨⟨response, replaced, succeeds, lists⟩, ⟨_, _, members⟩, _, _, lasts⟩ :=
    replaces _ setup.pool readsGood (by decide) (by decide) setup.pool_node
  obtain ⟨after, found, told, asks⟩ := lasts _ .now
  have asked : setup.node.AsksPool 0 := ⟨List.mem_singleton_self 0, _, rfl, rfl⟩
  refine ⟨⟨present, goodGives, badGives, readsGood, readsBad⟩, refuses ?_,
    ⟨response, congrArg (fun served => served.2.2) replaced, succeeds, lists⟩, ?_,
    after, found, told, asks 0 asked⟩
  · exact .inr (.inr (.inl ⟨_, readsBad, "c:3", by decide, by decide⟩))
  · exact (members "http://b:2").mpr ⟨"http://b:2/ ", by decide, by decide⟩

end Cluster

end RingCache
