import RingCache.Proofs.Cluster.Exchanges
import RingCache.Proofs.Group.Solitude

/-!
# Two ways to ask

A node gives the values of its groups to clients on one route and to peers on another. Each route
parts a path in its own way, and sends a value in its own way; but under the default base path both
read the same group and the same key from two segments (`Node.decide_pair`), and look it up.

If the groups of the node are on their own, then nothing that it is asked changes what it answers
(`Cluster.Offers.serve`). So it makes no difference which way is taken first
(`Cluster.client_and_peer_are_answered_alike`).
-/

namespace RingCache

open Http

/-! ## Two segments -/

/-- Whether a text stands for another one as a segment of the path of a request. -/
structure Percent.Segment (segment text : String) : Prop where
  /-- Nothing in it ends the segment or the path. -/
  plain : ∀ c ∈ segment.toList, c ≠ '/' ∧ c ≠ '?' ∧ c ≠ '#'
  /-- It spells the other text. -/
  spells : Percent.Spells segment text

namespace Percent

variable {segment text : String}

/-- Every text can be written as a segment. -/
theorem segment_encode (text : String) : Segment (encode text) text where
  plain c mem := by
    have isWritten := isWritten_of_mem mem
    exact ⟨(Path.plain_of_isWritten (Path.isWritten_encode text c mem)).1.1,
      plain_of_isWritten isWritten⟩
  spells := spells_encode text

/-- The segment of a text that is not empty is not empty. -/
theorem Segment.named (stands : Segment segment text) (named : text ≠ "") : segment ≠ "" := by
  rintro rfl
  exact named (stands.spells.unique (decode_eq_ok_iff.mp rfl))

theorem Segment.noSlash (stands : Segment segment text) : '/' ∉ segment.toList := fun mem =>
  (stands.plain '/' mem).1 rfl

end Percent

open Percent (Segment)

variable {first second group key : String}

/-- The path of two segments is the path of a request for it. -/
theorem Http.Request.path_pair {base : String}
    (basePlain : ∀ c ∈ base.toList, c ≠ '/' ∧ c ≠ '?' ∧ c ≠ '#')
    (groupStands : Segment first group) (keyStands : Segment second key) :
    let path := "/" ++ base ++ "/" ++ first ++ "/" ++ second
    (Request.get path).path = path := by
  intro path
  have laidOut : path = String.ofList ('/' :: (base.toList ++ '/' :: (first.toList ++
      '/' :: second.toList))) := by
    refine String.toList_inj.mp ?_
    simp [path]
  rw [laidOut]
  apply Http.Request.path_plain
  intro c mem
  simp only [List.mem_append, List.mem_cons] at mem
  rcases mem with inBase | rfl | inFirst | rfl | inSecond
  · exact (basePlain c inBase).2
  · decide
  · exact (groupStands.plain c inFirst).2
  · decide
  · exact (keyStands.plain c inSecond).2

theorem Http.Route.segments_pair {base : String} (baseAlone : '/' ∉ base.toList)
    (groupStands : Segment first group) (keyStands : Segment second key) :
    segments ("/" ++ base ++ "/" ++ first ++ "/" ++ second) = ["", base] ++ [first, second] := by
  have laidOut : "/" ++ base ++ "/" ++ first ++ "/" ++ second = String.ofList ([] ++
      '/' :: (base.toList ++ '/' :: (first.toList ++ '/' :: second.toList))) := by
    refine String.toList_inj.mp ?_
    simp
  rw [laidOut, segments_append, segments_append, segments_append]
  simp only [String.ofList_toList]
  rw [segments_alone baseAlone, segments_alone groupStands.noSlash,
    segments_alone keyStands.noSlash]
  rfl

/-- The route of a request for a path of two segments under a base path of one. -/
theorem Http.Route.ofPath_pair {base : String}
    (basePlain : ∀ c ∈ base.toList, c ≠ '/' ∧ c ≠ '?' ∧ c ≠ '#')
    (groupStands : Segment first group) (keyStands : Segment second key) (keyNamed : key ≠ "") :
    ofPath (Request.get ("/" ++ base ++ "/" ++ first ++ "/" ++ second)).path =
      if base = "api" then .value first second else .exchange := by
  have baseAlone : '/' ∉ base.toList := fun mem => (basePlain '/' mem).1 rfl
  rw [Request.path_pair basePlain groupStands keyStands,
    ofPath_of_pair (segments_pair baseAlone groupStands keyStands) (List.cons_ne_nil _ _)
      (keyStands.named keyNamed)]
  simp

/-- A node looks up what the two segments of a path spell, for a client under one base path and
for a peer under the other. -/
theorem Node.decide_pair {node : Node} (based : node.basePath = Address.defaultBasePath)
    (time : String) (groupStands : Segment first group) (keyStands : Segment second key)
    (groupNamed : group ≠ "") (keyNamed : key ≠ "") :
    node.decide time (.get ("/api/" ++ first ++ "/" ++ second)) =
        (node.look false group key).mapResponse .anyOrigin ∧
      node.decide time (.get ("/_cache/" ++ first ++ "/" ++ second)) =
        (node.look true group key).mapResponse .anyOrigin := by
  constructor
  · have isBase : "/api/" = "/" ++ "api" ++ "/" := rfl
    have plain : ∀ c ∈ "api".toList, c ≠ '/' ∧ c ≠ '?' ∧ c ≠ '#' := by simp
    have leads := Route.ofPath_pair plain groupStands keyStands keyNamed
    rw [if_pos rfl] at leads
    rw [isBase, node.decide_get time leads (by rfl), decideRoute, decideValue,
      Percent.decode_eq_ok_iff.mpr groupStands.spells,
      Percent.decode_eq_ok_iff.mpr keyStands.spells]
  · have isBase : "/_cache/" = "/" ++ "_cache" ++ "/" := rfl
    have plain : ∀ c ∈ "_cache".toList, c ≠ '/' ∧ c ≠ '?' ∧ c ≠ '#' := by simp
    have isPath := Http.Request.path_pair plain groupStands keyStands
    have leads := Route.ofPath_pair plain groupStands keyStands keyNamed
    have laid : PeerPath.Laid Address.defaultBasePath
        ("/" ++ "_cache" ++ "/" ++ first ++ "/" ++ second) first second :=
      ⟨rfl, groupStands.named groupNamed, keyStands.named keyNamed, groupStands.noSlash⟩
    have read := PeerPath.split_eq_ok_iff.mpr
      ⟨first, second, laid, groupStands.spells, keyStands.spells⟩
    rw [← based] at read
    rw [if_neg (by decide)] at leads
    rw [isBase, node.decide_get time leads (by rfl), decideRoute, isPath,
      decideExchange_of_split read]

/-! ## Answers to clients and to peers -/

/-- How a client and a peer are answered who get the same: the client has the octets that the
envelope of the peer carries, or both have the one failure. -/
inductive Http.Response.Pairs : Result → Response → Response → Prop
  | value {octets : Octets} {client peer : Response} (succeeds : client.status = 200)
      (raw : client.body = octets) (carried : Carries (.ok octets) peer) :
      Pairs (.ok octets) client peer
  | unknown {group : String} {both : Response} (missing : both.status = 404)
      (reports : both = (Response.failure (.unknownGroup group)).anyOrigin) :
      Pairs (.error (.unknownGroup group)) both both
  | failed {text : String} {both : Response} (carried : Carries (.error (.loader text)) both) :
      Pairs (.error (.loader text)) both both

/-- What a node has to say of a key of a group, if its groups compute functions. -/
def Node.verdict (node : Node) (functions : Nat → String → Except String Octets)
    (group key : String) : Result :=
  match node.registry.number? group with
  | none => .error (.unknownGroup group)
  | some number => (functions number key).mapError .loader

theorem Node.pairs_verdict (node : Node) (functions : Nat → String → Except String Octets)
    (group : String) (keyNamed : key ≠ "") :
    Response.Pairs (node.verdict functions group key)
      (Response.ofResult false (node.verdict functions group key)).anyOrigin
      (Response.ofResult true (node.verdict functions group key)).anyOrigin := by
  rw [verdict]
  cases node.registry.number? group with
  | none => exact .unknown rfl rfl
  | some number =>
      dsimp only
      cases functions number key with
      | ok octets =>
          exact .value rfl rfl (Response.carries_ofResult keyNamed (.value keyNamed octets))
      | error text => exact .failed (Response.carries_ofResult keyNamed (.failed keyNamed text))

namespace Cluster

variable {cluster : Cluster} {index number : Nat} {node : Node}
  {functions : Nat → String → Except String Octets} {time : String} {request : Request}

/-! ## Nodes whose groups are on their own -/

/-- Whether the groups of a node are on their own. -/
def Lone (functions : Nat → String → Except String Octets) (index : Nat) (cluster : Cluster) :
    Prop :=
  ∀ number group, cluster.group? index number = some group → group.Solitary (functions number)

/-- Whether nobody is in a group of a node, and no source of theirs lets a call wait. -/
def Ready (index : Nat) (cluster : Cluster) : Prop :=
  ∀ number group, cluster.group? index number = some group → group.Ready

/-- Such a node waits for no peer. -/
theorem Lone.awaited?_eq_none (lone : cluster.Lone functions index) (number : Nat) (key : String) :
    cluster.awaited? index number key = none := by
  rw [awaited?_eq]
  cases found : cluster.group? index number with
  | none => rfl
  | some group =>
      rw [Option.bind_some]
      split
      · rename_i peer fetching
        exact absurd fetching ((lone number group found).stage?_ne key peer)
      · rfl

/-- A lookup leaves it so. -/
theorem Lone.lookup (lone : cluster.Lone functions index) (number : Nat) (key : String) :
    (cluster.step index number (.lookup key)).1.Lone functions index := by
  intro other after found
  obtain ⟨before, present, rfl | ⟨_, _, rfl⟩⟩ := exists_group_of_step found
  · exact lone other after present
  · have heeds : Group.Event.Heeds (functions other) (.lookup key) := trivial
    exact ((lone other before present).step heeds).1

/-- And ready, if it is. -/
theorem Lone.ready_lookup (lone : cluster.Lone functions index) (ready : cluster.Ready index)
    (number : Nat) (key : String) :
    (cluster.step index number (.lookup key)).1.Ready index := by
  intro other after found
  obtain ⟨before, present, rfl | ⟨_, _, rfl⟩⟩ := exists_group_of_step found
  · exact ready other after present
  · exact (lone other before present).ready_step (ready other before present) key

/-- One lookup at such a node is one event of the group. -/
theorem Lone.lookups_eq (lone : cluster.Lone functions index) (number : Nat) (key : String)
    (hops : Nat) :
    let stepped := cluster.step index number (.lookup key)
    lookups (hops + 1) cluster index number key 1 =
      (stepped.1, loadsOf index (cluster.groupName index number) stepped.2,
        inOrder (resultsOf stepped.2)) := by
  intro stepped
  have started : cluster.start index number key 1 = stepped := start_one ..
  have stillIdle : (cluster.start index number key 1).1.awaited? index number key = none := by
    rw [started]
    exact (lone.lookup number key).awaited?_eq_none number key
  rw [lookups_of_idle (lone.awaited?_eq_none number key) stillIdle, started]

/-- Whoever returns in it has what the function gives for the key. -/
theorem Lone.returns_lookup (lone : cluster.Lone functions index) {key : String} (named : key ≠ "")
    {result : Result}
    (listed : result ∈ inOrder (resultsOf (cluster.step index number (.lookup key)).2)) :
    result = (functions number key).mapError .loader := by
  obtain ⟨id, other, ended⟩ := exists_ended_of_mem listed
  obtain ⟨group, found, seen⟩ := exists_group_of_notice ended
  have asks : Group.Asks key (GroupState.IsAnswer (functions number) key) (.lookup key) := .lookup
  obtain ⟨rfl, fits⟩ := (Promises.Rests.group_step (lone number group found) asks).2 _ seen
  exact fits.trans (if_neg named)

/-- At a node that is ready, somebody returns. -/
theorem Lone.exists_result (lone : cluster.Lone functions index) (ready : cluster.Ready index)
    {found : Group} (present : cluster.group? index number = some found) (key : String) :
    ∃ result, inOrder (resultsOf (cluster.step index number (.lookup key)).2) = [result] := by
  have solitary := lone number found present
  obtain ⟨result, gives⟩ := solitary.exists_gives (ready number found present) key
  exact ⟨result, results_of_gives present solitary.settled gives⟩

/-- What such a node does that is asked for a key of a group. -/
theorem Lone.serve_look (lone : cluster.Lone functions index)
    (present : cluster.node? index = some node) {isSealed : Bool} {group key : String}
    (decided : node.decide time request = (node.look isSealed group key).mapResponse .anyOrigin) :
    cluster.serve index time request =
      match node.registry.number? group with
      | none => (cluster, [], some (Response.failure (.unknownGroup group)).anyOrigin)
      | some number =>
          let stepped := cluster.step index number (.lookup key)
          (stepped.1, loadsOf index (cluster.groupName index number) stepped.2,
            (inOrder (resultsOf stepped.2)).head?.map fun result =>
              (Response.ofResult isSealed result).anyOrigin) := by
  rw [Cluster.serve, present]
  dsimp only
  rw [decided, Node.look]
  cases node.registry.number? group with
  | none => rfl
  | some number =>
      dsimp only [Decision.mapResponse]
      rw [hops, lone.lookups_eq]

/-! ## Requests one after the other -/

/-- New peers are nothing to groups on their own. -/
theorem Lone.group?_setPeers (lone : cluster.Lone functions index)
    (present : cluster.node? index = some node) (peers : List String) (number : Nat) :
    (cluster.setNode index (node.setPeers peers)).group? index number =
      cluster.group? index number := by
  obtain ⟨change, changes, isMap⟩ := Cluster.group?_setPeers present peers index number
  rw [isMap]
  cases found : cluster.group? index number with
  | none => rfl
  | some group =>
      rcases changes group with same | ⟨pool, repicked⟩
      · rw [Option.map_some, same]
      · rw [Option.map_some, repicked, (lone number group found).repick_eq pool]

/-- Whether a cluster has a node with the base path and the names of another one, and under each
name a group on its own. -/
structure Offers (functions : Nat → String → Except String Octets) (index : Nat) (node : Node)
    (cluster : Cluster) : Prop where
  lone : cluster.Lone functions index
  kin : ∃ now, cluster.node? index = some now ∧ now.basePath = node.basePath ∧
    now.registry.index = node.registry.index
  listed : ∀ name number, node.registry.number? name = some number →
    (cluster.group? index number).isSome

/-- New peers leave it so. -/
theorem Offers.setPeers (offers : cluster.Offers functions index node) {now : Node}
    (present : cluster.node? index = some now) (peers : List String) :
    let next := cluster.setNode index (now.setPeers peers)
    next.Offers functions index node ∧ (cluster.Ready index → next.Ready index) := by
  intro next
  obtain ⟨own, isOwn, sameBase, sameNames⟩ := offers.kin
  obtain rfl := Option.some.inj (present.symm.trans isOwn)
  have isNode : next.node? index = some (now.setPeers peers) := by
    rw [node?_setNode, present, Option.map_some, if_pos rfl]
  have kept : (now.setPeers peers).basePath = now.basePath ∧
      (now.setPeers peers).registry.index = now.registry.index := by
    rw [Node.setPeers]
    split <;> exact ⟨rfl, rfl⟩
  have same : ∀ number, next.group? index number = cluster.group? index number :=
    offers.lone.group?_setPeers present peers
  refine ⟨⟨fun number group found => ?_, ⟨_, isNode, kept.1.trans sameBase,
    kept.2.trans sameNames⟩, fun name number named => ?_⟩, fun ready number group found => ?_⟩
  · exact offers.lone number group ((same number).symm.trans found)
  · rw [same]
    exact offers.listed name number named
  · exact ready number group ((same number).symm.trans found)

/-- So does a lookup. -/
theorem Offers.lookup (offers : cluster.Offers functions index node) (number : Nat)
    (key : String) :
    let next := (cluster.step index number (.lookup key)).1
    next.Offers functions index node ∧ (cluster.Ready index → next.Ready index) := by
  intro next
  obtain ⟨now, present, sameBase, sameNames⟩ := offers.kin
  have isNode := node?_step cluster index number (.lookup key) index
  rw [present, Option.map_some, if_pos rfl] at isNode
  refine ⟨⟨offers.lone.lookup number key, ⟨_, isNode, sameBase, ?_⟩, fun name other named => ?_⟩,
    fun ready => offers.lone.ready_lookup ready number key⟩
  · exact (Registry.index_step ..).trans sameNames
  · rw [group?_step, Option.isSome_map]
    exact offers.listed name other named

/-- And so does every request: the node still offers the same, and is ready if it was. -/
theorem Offers.serve (offers : cluster.Offers functions index node) (time : String)
    (request : Request) :
    (cluster.serve index time request).1.Offers functions index node ∧
      (cluster.Ready index → (cluster.serve index time request).1.Ready index) := by
  rcases serve_cases cluster index time request with
    same | ⟨now, peers, present, _, replaced⟩ | ⟨number, key, looked⟩
  · rw [same]
    exact ⟨offers, id⟩
  · rw [replaced]
    exact offers.setPeers present peers
  · rw [looked, hops, offers.lone.lookups_eq]
    exact offers.lookup number key

/-- The cluster after requests to a node, each at its time. -/
def serveAll (cluster : Cluster) (index : Nat) : List (String × Request) → Cluster
  | [] => cluster
  | asked :: rest => ((cluster.serve index asked.1 asked.2).1).serveAll index rest

/-- Many requests do so too. -/
theorem Offers.serveAll (offers : cluster.Offers functions index node)
    (earlier : List (String × Request)) :
    let later := cluster.serveAll index earlier
    later.Offers functions index node ∧ (cluster.Ready index → later.Ready index) := by
  induction earlier generalizing cluster with
  | nil => exact ⟨offers, id⟩
  | cons asked rest inductionHypothesis =>
      obtain ⟨next, ready⟩ := offers.serve asked.1 asked.2
      obtain ⟨last, stillReady⟩ := inductionHypothesis next
      exact ⟨last, stillReady ∘ ready⟩

/-! ## Clients and peers -/

/-- The names lead where they led. -/
theorem Offers.number?_eq (offers : cluster.Offers functions index node) {now : Node}
    (present : cluster.node? index = some now) (name : String) :
    now.registry.number? name = node.registry.number? name := by
  obtain ⟨own, isOwn, _, sameNames⟩ := offers.kin
  obtain rfl := Option.some.inj (present.symm.trans isOwn)
  rw [Registry.number?, Registry.number?, sameNames]

/-- Whoever is answered that asks for a key has what the node has to say of it, and everybody is
answered if there is no such group, or no source lets a call wait. -/
theorem Offers.answers (offers : cluster.Offers functions index node) {now : Node}
    (present : cluster.node? index = some now) {isSealed : Bool} {group key : String}
    (keyNamed : key ≠ "")
    (decided : now.decide time request = (now.look isSealed group key).mapResponse .anyOrigin) :
    let served := cluster.serve index time request
    (∀ response, served.2.2 = some response →
      response = (Response.ofResult isSealed (node.verdict functions group key)).anyOrigin) ∧
    (node.registry.number? group = none ∨ cluster.Ready index → served.2.2.isSome) := by
  intro served
  have looked : served = _ := offers.lone.serve_look present decided
  rw [offers.number?_eq present] at looked
  rw [Node.verdict, looked]
  cases leads : node.registry.number? group with
  | none => exact ⟨fun response isFailure => (Option.some.inj isFailure).symm, fun _ => rfl⟩
  | some number =>
      refine ⟨fun response isAnswer => ?_, fun either => ?_⟩
      · obtain ⟨result, isFirst, rfl⟩ := Option.map_eq_some_iff.mp isAnswer
        rw [offers.lone.returns_lookup keyNamed (List.mem_of_mem_head? isFirst)]
      · obtain ⟨found, isFound⟩ := Option.isSome_iff_exists.mp (offers.listed group number leads)
        obtain ⟨result, only⟩ :=
          offers.lone.exists_result (either.resolve_left nofun) isFound key
        simp only [only, List.head?_cons, Option.map_some, Option.isSome_some]

/-- A client and a peer who ask a node with the default base path for a key of a group, each of the
two written as a segment of the path, are answered alike, if the groups of the node have no picker
and their sources follow functions. Both get the value, the peer in an envelope, or both get the one
failure, with status 404 if there is no such group, and 500 if the function fails. Whatever state the
groups are in, and whatever the node was asked before, both ways do the same to the cluster, and
either has this answer or waits. Neither has to wait if there is no such group, or if no source lets
a call wait; and whoever waits returns the answer in the end. A group is on its own when it is
created, and after each event (`Group.solitary_create`, `Group.Solitary.step`). -/
theorem client_and_peer_are_answered_alike (present : cluster.node? index = some node)
    (based : node.basePath = Address.defaultBasePath) (indexed : node.registry.Indexed)
    (lone : cluster.Lone functions index) {first second group key : String}
    (groupNamed : group ≠ "") (keyNamed : key ≠ "") (groupStands : Segment first group)
    (keyStands : Segment second key) :
    let client := Request.get ("/api/" ++ first ++ "/" ++ second)
    let peer := Request.get ("/_cache/" ++ first ++ "/" ++ second)
    let verdict := node.verdict functions group key
    ∃ forClient forPeer, Response.Pairs verdict forClient forPeer ∧
      ∀ (earlier : List (String × Request)) (time : String),
        let later := cluster.serveAll index earlier
        let asClient := later.serve index time client
        let asPeer := later.serve index time peer
        asClient.1 = asPeer.1 ∧ asClient.2.1 = asPeer.2.1 ∧
        (asClient.2.2.isSome ↔ asPeer.2.2.isSome) ∧
        (∀ response, asClient.2.2 = some response → response = forClient) ∧
        (∀ response, asPeer.2.2 = some response → response = forPeer) ∧
        (node.registry.number? group = none ∨ cluster.Ready index → asClient.2.2.isSome) ∧
        ∀ number found event, node.registry.number? group = some number →
          later.group? index number = some found → event.Heeds (functions number) →
            ∀ id result, .ended id key (.returned result) ∈ (found.step event).2 →
              result = verdict := by
  intro client peer verdict
  refine ⟨_, _, node.pairs_verdict functions group keyNamed, fun earlier time => ?_⟩
  intro later asClient asPeer
  have offers : cluster.Offers functions index node := by
    refine ⟨lone, ⟨node, present, rfl, rfl⟩, fun name number named => ?_⟩
    obtain ⟨found, isFound, _⟩ := indexed name number named
    rw [group?, present, Option.bind_some, isFound]
    rfl
  obtain ⟨still, stillReady⟩ := offers.serveAll earlier
  obtain ⟨now, isNow, sameBase, sameNames⟩ := still.kin
  obtain ⟨decidedClient, decidedPeer⟩ := Node.decide_pair (sameBase.trans based) time groupStands
    keyStands groupNamed keyNamed
  obtain ⟨clientGets, clientAnswered⟩ := still.answers isNow keyNamed decidedClient
  obtain ⟨peerGets, _⟩ := still.answers isNow keyNamed decidedPeer
  have servedClient : asClient = _ := still.lone.serve_look isNow decidedClient
  have servedPeer : asPeer = _ := still.lone.serve_look isNow decidedPeer
  have same : asClient.1 = asPeer.1 ∧ asClient.2.1 = asPeer.2.1 ∧
      (asClient.2.2.isSome ↔ asPeer.2.2.isSome) := by
    rw [servedClient, servedPeer]
    cases now.registry.number? group with
    | none => exact ⟨rfl, rfl, Iff.rfl⟩
    | some number => simp only [Option.isSome_map, and_self]
  refine ⟨same.1, same.2.1, same.2.2, clientGets, peerGets,
    fun either => clientAnswered (either.imp_right stillReady), ?_⟩
  intro number found event leads isFound heeds id result ended
  rw [((still.lone number found isFound).step heeds).2 id key result ended]
  simp only [verdict, Node.verdict, leads, Source.answer, if_neg keyNamed]

/-- A group with a slash and a key with a percent sign, asked for by a client and then by a peer. -/
theorem value_is_loaded_for_client_and_kept_for_peer :
    let function (key : String) : Except String Octets :=
      if key = "50%" then .ok (Utf8.encode "half") else .error (key ++ " not exist")
    let node : Node := { registry := .ofGroups [("a/b", 64, .ofFunction function)] }
    let cluster : Cluster := { members := [⟨node, none⟩] }
    let first := Percent.encode "a/b"
    let second := Percent.encode "50%"
    let client := Request.get ("/api/" ++ first ++ "/" ++ second)
    let later := cluster.serveAll 0 [("", client)]
    cluster.node? 0 = some node ∧ node.basePath = Address.defaultBasePath ∧
      node.registry.Indexed ∧ cluster.Lone (fun _ => function) 0 ∧
      "a/b" ≠ "" ∧ "50%" ≠ "" ∧ Segment first "a/b" ∧ Segment second "50%" ∧
      ∃ forClient forPeer, Response.Pairs (.ok (Utf8.encode "half")) forClient forPeer ∧
        (cluster.serve 0 "" client).2.2 = some forClient ∧
        (later.serve 0 "" (.get ("/_cache/" ++ first ++ "/" ++ second))).2.2 = some forPeer := by
  intro function node cluster first second client later
  have present : cluster.node? 0 = some node := rfl
  have based : node.basePath = Address.defaultBasePath := rfl
  have indexed : node.registry.Indexed := (Registry.ofGroups_spec _).1
  have created : ∀ number found, cluster.group? 0 number = some found →
      found = Group.create "a/b" 64 (.ofFunction function) := by
    intro number found isFound
    obtain ⟨entry, listed, rfl⟩ :=
      (Registry.ofGroups_spec _).2.1 found (List.mem_of_getElem? isFound)
    rw [List.mem_singleton.mp listed]
  have lone : cluster.Lone (fun _ => function) 0 := fun number found isFound =>
    created number found isFound ▸ Group.solitary_create (Source.follows_ofFunction function) _ _
  have ready : cluster.Ready 0 := by
    intro number found isFound
    refine created number found isFound ▸ ⟨rfl, fun calls key => ?_⟩
    obtain ⟨outcome, replies, _⟩ := Source.ofFunction_load function calls key
    rw [show (Group.create "a/b" 64 (.ofFunction function)).world.source.load calls key = _ from
      replies]
    nofun
  have groupStands : Segment first "a/b" := Percent.segment_encode "a/b"
  have keyStands : Segment second "50%" := Percent.segment_encode "50%"
  refine ⟨present, based, indexed, lone, by decide, by decide, groupStands, keyStands, ?_⟩
  obtain ⟨forClient, forPeer, pairs, answers⟩ := client_and_peer_are_answered_alike present based
    indexed lone (by decide) (by decide) groupStands keyStands
  obtain ⟨_, _, _, clientGets, _, clientAnswered, _⟩ := answers [] ""
  obtain ⟨_, _, alike, _, peerGets, peerAnswered, _⟩ := answers [("", client)] ""
  obtain ⟨one, isOne⟩ := Option.isSome_iff_exists.mp (clientAnswered (.inr ready))
  obtain ⟨other, isOther⟩ := Option.isSome_iff_exists.mp (alike.mp (peerAnswered (.inr ready)))
  have isVerdict : node.verdict (fun _ => function) "a/b" "50%" = .ok (Utf8.encode "half") := by
    have leads : node.registry.number? "a/b" = some 0 := by decide +kernel
    simp only [Node.verdict, leads, function, if_true, Except.mapError]
  refine ⟨forClient, forPeer, isVerdict ▸ pairs, ?_, ?_⟩
  · rw [clientGets one isOne, serveAll] at isOne
    simpa only [client] using isOne
  · rw [peerGets other isOther] at isOther
    simpa only [later] using isOther

end Cluster

end RingCache
