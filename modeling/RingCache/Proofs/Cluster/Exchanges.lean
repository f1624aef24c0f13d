import RingCache.Proofs.Cluster.Frames
import RingCache.Proofs.Node.PeerPaths
import RingCache.Proofs.Node.Reachability

/-!
# What a peer's request comes to

Whatever path a peer asks for, the node refuses it, or it does not know the group, or it looks one
key up (`Cluster.Exchanged`). A request that is refused, or for a group that is not there, leaves
the whole cluster as it was. Any other request does what one lookup of the key does, and nothing
else: the answer has its result, and what it changes is what that lookup and the requests that it
sends lead to (`Cluster.peer_requests_do_one_lookup`).
-/

namespace RingCache

open Http

/-! ## Answers to peers -/

/-- How a peer is answered when a lookup has given a result: with an envelope out of which the value
comes as it was, or with the failure of the source. -/
inductive Http.Response.Carries : Result → Response → Prop
  | value {octets : Octets} {response : Response} {envelope : Envelope}
      (succeeds : response.status = 200) (isSealed : Envelope.read response.body = .ok envelope)
      (opens : envelope.contents = .ok octets) : Carries (.ok octets) response
  | failed {text : String} {response : Response} (fails : response.status = 500)
      (reports : response = (Response.failure (.loader text)).anyOrigin) :
      Carries (.error (.loader text)) response

namespace Http.Response

/-- The result of a lookup that has a key is carried. -/
theorem carries_ofResult {key : String} {result : Result} (named : key ≠ "")
    (returns : Group.Returns key result) : Carries result (ofResult true result).anyOrigin := by
  cases returns with
  | unnamed isEmpty => exact absurd isEmpty named
  | value _ octets =>
      obtain ⟨succeeds, envelope, isSealed, opens⟩ := ofResult_sealed octets
      rw [← status_anyOrigin] at succeeds
      rw [← body_anyOrigin] at isSealed
      exact .value succeeds isSealed opens
  | failed _ text => exact .failed rfl rfl

theorem Carries.status {result : Result} {response : Response} (carries : Carries result response) :
    response.status = statusOf result ∧ (response.status = 200 ∨ response.status = 500) := by
  cases carries with
  | value succeeds _ _ => exact ⟨succeeds, .inl succeeds⟩
  | failed fails _ => exact ⟨fails, .inr fails⟩

end Http.Response

namespace Cluster

variable {cluster : Cluster} {index number : Nat} {group key : String} {found : Group}
  {result : Result}

/-! ## Lookups that return at once -/

/-- Nobody waits for a peer with a key if the callers are the same. -/
theorem awaited?_step {event : Group.Event} (present : cluster.group? index number = some found)
    (callers : (found.step event).1.callers = found.callers)
    (idle : cluster.awaited? index number key = none) :
    (cluster.step index number event).1.awaited? index number key = none := by
  have sameStage : (found.step event).1.stage? key = found.stage? key := by
    rw [Group.stage?, Group.stage?, Flight.leader?, Flight.leader?, callers]
  rw [awaited?_eq, present, Option.bind_some] at idle
  rw [awaited?_eq, group?_step, present, Option.map_some, if_pos ⟨rfl, rfl⟩, Option.bind_some,
    sameStage]
  split at idle
  · cases idle
  · rfl

/-- Lookups are what starts with them, if nobody waits for a peer with their key before or after. -/
theorem lookups_of_idle {count : Nat} (idle : cluster.awaited? index number key = none)
    (stillIdle : (cluster.start index number key count).1.awaited? index number key = none)
    (hops : Nat) :
    let started := cluster.start index number key count
    lookups (hops + 1) cluster index number key count =
      (started.1, loadsOf index (cluster.groupName index number) started.2,
        inOrder (resultsOf started.2)) := by
  intro started
  rw [lookups]
  dsimp only
  rw [idle, stillIdle]

/-- One lookup starts with one event. -/
theorem start_one (cluster : Cluster) (index number : Nat) (key : String) :
    cluster.start index number key 1 = cluster.step index number (.lookup key) := by
  rw [start, start]
  exact Prod.ext rfl (List.append_nil _)

/-- The result of a lookup that returns at once is the only one that its event brings. -/
theorem results_of_gives (present : cluster.group? index number = some found)
    (settled : found.Settled) (gives : found.Gives key result) :
    inOrder (resultsOf (cluster.step index number (.lookup key)).2) = [result] := by
  obtain ⟨calls, noticed, _⟩ := gives.step settled
  rw [notices_step, present, Option.elim_some, noticed, resultsOf_append, resultsOf_calls]
  exact inOrder_singleton found.nextCaller result

/-- A lookup that returns at once is one event of its group, and its result the only one. -/
theorem Settled.lookups_of_gives (settled : cluster.Settled)
    (present : cluster.group? index number = some found)
    (idle : cluster.awaited? index number key = none) (gives : found.Gives key result)
    (hops : Nat) :
    let stepped := cluster.step index number (.lookup key)
    lookups (hops + 1) cluster index number key 1 =
      (stepped.1, loadsOf index (cluster.groupName index number) stepped.2, [result]) := by
  intro stepped
  have ownSettled := settled index number found present
  obtain ⟨_, _, callers⟩ := gives.step ownSettled
  have started : cluster.start index number key 1 = stepped := start_one ..
  have stillIdle : stepped.1.awaited? index number key = none := awaited?_step present callers idle
  rw [← started] at stillIdle
  rw [lookups_of_idle idle stillIdle, started, results_of_gives present ownSettled gives]

/-- If no pass of a key is in flight, nobody waits for a peer with it. -/
theorem Settled.awaited?_of_free (settled : cluster.Settled)
    (present : cluster.group? index number = some found)
    (free : found.records.lookup key = none) : cluster.awaited? index number key = none := by
  have noLeader : found.leader? key = none := by
    rw [Option.eq_none_iff_forall_ne_some]
    intro leader isLeader
    obtain ⟨leading, rfl, ticket, stage, phase⟩ := Flight.Sound.leader?_eq_some isLeader
    have recorded := (settled index number found present).sound.recorded leader leading ticket
      (by rw [phase]; rfl)
    simpa using List.lookup_eq_none_iff.mp free _ recorded
  rw [awaited?_eq, present, Option.bind_some, Group.stage?, noLeader]
  rfl

/-! ## Requests -/

/-- A request changes nothing, gives a node its peers, or is a lookup. -/
theorem serve_cases (cluster : Cluster) (index : Nat) (time : String) (request : Request) :
    let next := (cluster.serve index time request).1
    next = cluster ∨
      (∃ node peers, cluster.node? index = some node ∧
        node.decide time request = .replacePeers peers ∧
          next = cluster.setNode index (node.setPeers peers)) ∨
      ∃ number key, next = (lookups cluster.hops cluster index number key 1).1 := by
  intro next
  cases present : cluster.node? index with
  | none => exact .inl (by simp only [next, Cluster.serve, present])
  | some node =>
      cases decided : node.decide time request with
      | respond response => exact .inl (by simp only [next, Cluster.serve, present, decided])
      | replacePeers peers =>
          refine .inr (.inl ⟨node, peers, rfl, decided, ?_⟩)
          simp only [next, Cluster.serve, present, decided]
      | lookup number key answer =>
          refine .inr (.inr ⟨number, key, ?_⟩)
          simp only [next, Cluster.serve, present, decided]

/-- New peers for a node leave the cluster between two events. -/
theorem Settled.setPeers (settled : cluster.Settled) {node : Node}
    (present : cluster.node? index = some node) (peers : List String) :
    (cluster.setNode index (node.setPeers peers)).Settled := by
  intro other otherNumber after isAfter
  obtain ⟨before, wasFound, rfl | ⟨pool, rfl⟩⟩ := exists_group_of_setPeers present isAfter
  · exact settled other otherNumber after wasFound
  · exact (settled other otherNumber before wasFound).equip _

/-- So does every request. -/
theorem Settled.serve (settled : cluster.Settled) (index : Nat) (time : String)
    (request : Request) : (cluster.serve index time request).1.Settled := by
  rcases serve_cases cluster index time request with
    same | ⟨node, peers, present, _, replaced⟩ | ⟨number, key, looked⟩
  · rwa [same]
  · rw [replaced]
    exact settled.setPeers present peers
  · rw [looked]
    exact (settled.leaves_lookups cluster.hops index number key 1).1.settled

/-- What becomes of a peer's request for a key of a group that is there with a number. -/
structure Exchanged (cluster : Cluster) (index number : Nat) (group key : String)
    (served : Cluster × List Sight × Option Response) : Prop where
  /-- The request does what one lookup of the key does. It is answered when the lookup has a
  result, and carries it. -/
  looks : ∃ results, cluster.get? index group key 1 = some (served.1, served.2.1, results) ∧
    (∀ response, served.2.2 = some response →
      ∃ result, results.head? = some result ∧ Response.Carries result response) ∧
    (served.2.2 = none → results = [])
  /-- The nodes, their names and what makes their groups stay. -/
  alike : Alike cluster served.1
  /-- Any other group stays, unless a request that was seen leads to it. -/
  others : ∀ other otherNumber, ¬ (other = index ∧ otherNumber = number) →
    (∀ url, .request url ∈ served.2.1 → ¬ cluster.Leads url other otherNumber) →
    served.1.group? other otherNumber = cluster.group? other otherNumber
  /-- Between nodes that ask plain peers, only groups change to which this name leads. -/
  named : cluster.Plain → ∀ other otherNumber,
    (∀ node, cluster.node? other = some node → node.registry.number? group ≠ some otherNumber) →
    served.1.group? other otherNumber = cluster.group? other otherNumber
  /-- If the lookup returns at once, it is one event of the group, and this is all that happens. -/
  atOnce : ∀ found result, cluster.group? index number = some found →
    cluster.awaited? index number key = none → found.Gives key result →
      served.1 = (cluster.step index number (.lookup key)).1 ∧
      (served.1.group? index number = some (found.step (.lookup key)).1 ∧
        ∀ other otherNumber, ¬ (other = index ∧ otherNumber = number) →
          served.1.group? other otherNumber = cluster.group? other otherNumber) ∧
      ∃ response, served.2.2 = some response ∧ Response.Carries result response
  /-- The request is answered if no pass of the key is in flight and a new one waits for nobody. -/
  prompt : ∀ found, cluster.group? index number = some found → found.world.Prompt key →
    found.records.lookup key = none → ∃ response, served.2.2 = some response

/-- What a request comes to that a node decides to look up for a peer. -/
theorem Settled.exchanged (settled : cluster.Settled) {node : Node}
    (present : cluster.node? index = some node) (named : key ≠ "")
    (leads : node.registry.number? group = some number) :
    let looked := lookups cluster.hops cluster index number key 1
    Exchanged cluster index number group key
      (looked.1, looked.2.1, looked.2.2.head?.map fun result =>
        (Response.ofResult true result).anyOrigin) := by
  intro looked
  obtain ⟨leaves, returns⟩ := settled.leaves_lookups cluster.hops index number key 1
  have atOnce : ∀ found result, cluster.group? index number = some found →
      cluster.awaited? index number key = none → found.Gives key result →
        looked.1 = (cluster.step index number (.lookup key)).1 ∧ looked.2.2 = [result] := by
    intro found result isFound idle gives
    have whole : looked = _ := settled.lookups_of_gives isFound idle gives _
    exact ⟨by rw [whole], by rw [whole]⟩
  have carries : ∀ result ∈ looked.2.2,
      Response.Carries result (Response.ofResult true result).anyOrigin := fun result mem =>
    Response.carries_ofResult named (returns result mem)
  refine ⟨⟨looked.2.2, ?_, ?_, ?_⟩, leaves.alike, leaves.others, ?_, ?_, ?_⟩
  · rw [get?, present]
    dsimp only [bind, Option.bind]
    rw [leads]
    rfl
  · intro response isAnswer
    obtain ⟨result, isFirst, rfl⟩ := Option.map_eq_some_iff.mp isAnswer
    exact ⟨result, isFirst, carries result (List.mem_of_mem_head? isFirst)⟩
  · intro unanswered
    simpa using unanswered
  · intro plain other otherNumber unnamed
    obtain ⟨own, isFound, isName⟩ := plain.indexed index node present group number leads
    refine plain.others settled cluster.hops key 1 ?_ ?_
    · rintro ⟨rfl, rfl⟩
      exact unnamed node present leads
    · rwa [groupName_of_group? isFound, isName]
  · intro found result isFound idle gives
    obtain ⟨stepped, results⟩ := atOnce found result isFound idle gives
    refine ⟨stepped, ⟨?_, fun other otherNumber spared => ?_⟩, ?_⟩
    · rw [stepped, group?_step, isFound, Option.map_some, if_pos ⟨rfl, rfl⟩]
    · rw [stepped]
      exact group?_step_other spared
    · exact ⟨_, by rw [results]; rfl, carries result (by simp [results])⟩
  · intro found isFound prompt free
    obtain ⟨result, gives⟩ := Group.exists_gives prompt free
    obtain ⟨_, results⟩ := atOnce found result isFound (settled.awaited?_of_free isFound free) gives
    exact ⟨_, by rw [results]; rfl⟩

/-- A node answers every path that comes to its endpoint for peers, by any method but the one for
permissions, as malformed exactly if it reads no group and key from it, and as unknown exactly if no
group has the name. Both leave the whole cluster as it was. Otherwise it does what one lookup of the
key does: the answer carries its result, with status 200 or 500, and nothing changes but the group
and what the lookup's own requests lead to, all of the one name between nodes that ask plain peers;
if the lookup returns at once, what happens is its one event. There is no other status. A cluster
is between two events when it is built, and after each event and each request (`settled_build`,
`Settled.step`). -/
theorem peer_requests_do_one_lookup (settled : cluster.Settled) {node : Node}
    (present : cluster.node? index = some node) (time : String) (request : Request)
    (route : Route.ofPath request.path = .exchange) (asks : request.method ≠ "OPTIONS") :
    let served := cluster.serve index time request
    let read := PeerPath.split node.basePath request.path
    (∀ fault, read = .error fault → served =
      (cluster, [], some (Response.failure (.malformedRequest fault.message)).anyOrigin)) ∧
    (∀ group key, read = .ok (group, key) → node.registry.number? group = none → served =
      (cluster, [], some (Response.failure (.unknownGroup group)).anyOrigin)) ∧
    (∀ group key number, read = .ok (group, key) → node.registry.number? group = some number →
      Exchanged cluster index number group key served) ∧
    (∀ response, served.2.2 = some response →
      (response.status = 400 ↔ ∃ fault, read = .error fault) ∧
      (response.status = 404 ↔
        ∃ group key, read = .ok (group, key) ∧ node.registry.number? group = none) ∧
      response.status ∈ [200, 400, 404, 500]) ∧
    served.1.Settled := by
  intro served read
  have refused : ∀ fault, read = .error fault → served =
      (cluster, [], some (Response.failure (.malformedRequest fault.message)).anyOrigin) := by
    intro fault isFault
    simp only [served, Cluster.serve, present, Node.decide_of_exchange route asks,
      Node.decideExchange_of_fault isFault, Decision.mapResponse]
  have unknown : ∀ group key, read = .ok (group, key) → node.registry.number? group = none →
      served = (cluster, [], some (Response.failure (.unknownGroup group)).anyOrigin) := by
    intro group key isPair missing
    simp only [served, Cluster.serve, present, Node.decide_of_exchange route asks,
      Node.decideExchange_of_split isPair, Node.look, missing, Decision.mapResponse]
  have known : ∀ group key number, read = .ok (group, key) →
      node.registry.number? group = some number →
        Exchanged cluster index number group key served := by
    intro group key number isPair leads
    simp only [served, Cluster.serve, present, Node.decide_of_exchange route asks,
      Node.decideExchange_of_split isPair, Node.look, leads, Decision.mapResponse]
    exact settled.exchanged present (PeerPath.named_of_split isPair).2 leads
  refine ⟨refused, unknown, known, fun response isAnswer => ?_, settled.serve index time request⟩
  cases isRead : read with
  | error fault =>
      rw [refused fault isRead] at isAnswer
      rw [← Option.some.inj isAnswer]
      simp [Failure.status]
  | ok pair =>
      obtain ⟨group, key⟩ := pair
      cases leads : node.registry.number? group with
      | none =>
          rw [unknown group key isRead leads] at isAnswer
          rw [← Option.some.inj isAnswer]
          simp [Failure.status, leads]
      | some number =>
          obtain ⟨results, _, answered, _⟩ := (known group key number isRead leads).looks
          obtain ⟨result, _, carries⟩ := answered response isAnswer
          rcases carries.status.2 with succeeds | fails
          · simp [succeeds, leads]
          · simp [fails, leads]

/-- A node on its own answers at once. -/
theorem lone_node_answers_peer :
    let source : Source := .ofFunction fun key => .ok (Utf8.encode key)
    let setup : Setup := ⟨"http://a:1", some "a:1", [], 1, [("scores", 64, source)]⟩
    let cluster := build [setup] []
    let request := Request.get "/_cache/scores/T%6Fm"
    cluster.Settled ∧ cluster.node? 0 = some setup.node ∧
      Route.ofPath request.path = .exchange ∧ request.method ≠ "OPTIONS" ∧
      PeerPath.split setup.node.basePath request.path = .ok ("scores", "Tom") ∧
      setup.node.registry.number? "scores" = some 0 ∧
      Exchanged cluster 0 0 "scores" "Tom" (cluster.serve 0 "" request) ∧
      ∃ response, (cluster.serve 0 "" request).2.2 = some response := by
  intro source setup cluster request
  have settled : cluster.Settled := settled_build _ _
  have present : cluster.node? 0 = some setup.node := rfl
  have route : Route.ofPath request.path = .exchange := by decide
  have asks : request.method ≠ "OPTIONS" := by decide
  have read : PeerPath.split setup.node.basePath request.path = .ok ("scores", "Tom") := by
    decide +kernel
  have leads : setup.node.registry.number? "scores" = some 0 := rfl
  obtain ⟨_, _, known, _⟩ := peer_requests_do_one_lookup settled present "" request route asks
  have exchanged := known "scores" "Tom" 0 read leads
  have isFound : cluster.group? 0 0 = some (setup.group ("scores", 64, source)) := rfl
  have unowned : (setup.group ("scores", 64, source)).world.owner? "Tom" = none :=
    Setup.picker_of_nobody rfl "Tom"
  refine ⟨settled, present, route, asks, read, leads, exchanged,
    exchanged.prompt _ isFound ⟨?_, ?_⟩ rfl⟩
  · intro peer owns
    rw [unowned] at owns
    cases owns
  · obtain ⟨outcome, replies, answers⟩ :=
      Source.ofFunction_load (fun key => .ok (Utf8.encode key)) 0 "Tom"
    exact ⟨outcome, _, replies, answers⟩

end Cluster

end RingCache
