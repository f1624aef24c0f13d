import RingCache.Proofs.Cluster.Transparency

/-!
# A fetch is a lookup

A client of a node asks for a URL, the node reads the path of it, looks the key up, puts
the result in a response, and the client takes it out again. Nothing of this depends on
what the node keeps or on who waits there: the request comes to the lookup of the key in
the group of the name (`PeerPath.decide_sent`), and of every result the client is told
what `Client.told` says, which is the value itself or the status of the failure.

So a fetch leaves the nodes as the same lookup at the node does, and tells the client of
the result (`Cluster.fetch_is_lookup`).
-/

namespace RingCache

open Http

namespace Client

/-- What a client is told of a lookup's result: the value, or the status that the node
answers with. -/
def told : Result → Result
  | .ok octets => .ok octets
  | .error cause => .error (Fault.status cause.status).failure

theorem told_eq_ok {result : Result} {octets : Octets} :
    told result = .ok octets ↔ result = .ok octets := by
  cases result <;> simp [told]

theorem told_eq_error {result : Result} {failure : Failure} :
    told result = .error failure ↔ ∃ cause, result = .error cause ∧
      failure = .transport ("server returned: " ++ statusText cause.status) := by
  cases result with
  | ok octets => simp [told]
  | error cause =>
      constructor
      · intro same
        exact ⟨cause, rfl, (Except.error.inj same).symm⟩
      · rintro ⟨other, isCause, rfl⟩
        rw [Except.error.inj isCause]
        rfl

/-- What a client takes from a response is what it is told of the result in it. -/
theorem receive_ofResult (raw : String) (url : Url) (result : Result) :
    receive raw url (Cluster.delivered (Response.ofResult true result).anyOrigin) =
      told result := by
  cases result with
  | ok octets => exact Response.receive_value raw url octets
  | error cause =>
      have failed : isSuccess cause.status = false := by cases cause <;> rfl
      rw [Response.ofResult, Response.failure, Response.delivered_json, receive,
        if_pos (by simp [failed])]
      rfl

end Client

namespace PeerPath

variable {origin group key : String} {home : Url}

section Replaced

variable (url : Url) (path : String)

theorem authority_path : { url with path := path : Url }.authority = url.authority := by
  dsimp only [Url.authority]

theorem withoutUser_path :
    { url with path := path : Url }.withoutUser = { url.withoutUser with path := path } := by
  unfold Url.withoutUser
  dsimp only
  split <;> rfl

end Replaced

/-- The URLs of a client can be sent as its own base can, if they are not too long. -/
theorem target_of_reaches (plain : Url.isOrigin origin)
    (reaches : Transport.target (clientOf origin).base = .ok home)
    (fits : { home with path := asked group key : Url }.text.length ≤ Url.longestSent) :
    Transport.target ((clientOf origin).url group key) =
      .ok { home with path := asked group key } := by
  obtain ⟨_, rfl, isUrl⟩ := parse?_clientOf plain group key
  obtain ⟨parsed, unencrypted, hosted, sendable⟩ := Transport.target_eq_ok_iff.mp reaches
  obtain ⟨url, isParsed, rfl⟩ := Option.map_eq_some_iff.mp parsed
  refine Transport.target_eq_ok_iff.mpr ⟨?_, unencrypted, hosted, ?_⟩
  · rw [isUrl, isParsed, Option.map_some, Option.map_some, withoutUser_path]
  · rw [isSendable_eq, Bool.and_eq_true] at sendable ⊢
    exact ⟨decide_eq_true fits, sendable.2⟩

/-- Whatever the node is doing, a request for a key that stands in a path comes to the
lookup of this key in the group of the name, and the response to the result tells it to
the client. -/
theorem decide_sent {node : Node} (base : node.basePath = Address.defaultBasePath)
    (stands : Stands group ∧ Stands key) (time : String) :
    node.decide time (.get (asked group key)) =
      match node.registry.number? group with
      | none => .respond (Response.ofResult true (.error (.unknownGroup group))).anyOrigin
      | some number =>
          .lookup number key fun result => (Response.ofResult true result).anyOrigin := by
  rw [Node.decide_of_stands base time stands.1 stands.2, Node.look]
  cases node.registry.number? group <;> rfl

end PeerPath

namespace Cluster

open PeerPath

variable {origin group key : String} {home : Url} {cluster : Cluster} {index : Nat} {node : Node}

/-- A node that is asked for the path of a group and a key looks the key up. -/
theorem asked?_of_stands (present : cluster.node? index = some node)
    (base : node.basePath = Address.defaultBasePath) (stands : Stands group ∧ Stands key)
    {number : Nat} (leads : node.registry.number? group = some number) {url : Url}
    (isPath : url.path = asked group key) :
    cluster.asked? index url =
      some (.lookup number key fun result => (Response.ofResult true result).anyOrigin) := by
  rw [asked?, present, Option.map_some, isPath, decide_sent base stands, leads]

/-- A fetch whose request ends at a node that looks a key up tells the client of this lookup,
whichever key it is of. -/
theorem fetch_lands {client : Client} {asks : String} {url last : Url} {sights : List Sight}
    {number : Nat} (hops : Nat) (sent : Transport.target (client.url group key) = .ok url)
    (lands : cluster.send (client.url group key) Client.mostRedirects url =
      (sights, .node index last))
    (looks : cluster.asked? index last =
      some (.lookup number asks fun result => (Response.ofResult true result).anyOrigin)) :
    let looked := lookups hops cluster index number asks 1
    fetch (hops + 1) cluster client group key =
      (looked.1, sights ++ looked.2.1, looked.2.2.head?.map Client.told) := by
  rw [fetch, sent]
  dsimp only
  rw [lands]
  dsimp only
  rw [looks]
  dsimp only
  obtain ⟨after, seen, results⟩ := lookups hops cluster index number asks 1
  cases results with
  | nil => rfl
  | cons result rest =>
      dsimp only
      rw [Client.receive_ofResult]
      rfl

/-- A fetch whose request ends at a node that responds at once changes nothing. -/
theorem fetch_responded {client : Client} {url last : Url} {sights : List Sight}
    {response : Response} (hops : Nat) (sent : Transport.target (client.url group key) = .ok url)
    (lands : cluster.send (client.url group key) Client.mostRedirects url =
      (sights, .node index last))
    (responds : cluster.asked? index last = some (.respond response)) :
    fetch (hops + 1) cluster client group key =
      (cluster, sights, some (Client.receive (client.url group key) last (delivered response))) := by
  rw [fetch, sent]
  dsimp only
  rw [lands]
  dsimp only
  rw [responds]

/-- A client of a node with the default base path, which fetches a key that stands in a path,
as the name of the group does, in a request that can be sent, whatever the nodes are doing:

* the request comes to a lookup of the key in the group of the name, whatever happens
  until it ends, and the client takes the value out of the response to it, or is told the
  status of the failure;
* if the node has no such group, nothing is changed and the client is told so;
* else the nodes are left as they are by a lookup of the key at the node itself, the client
  gets octets if and only if this lookup returns them, and otherwise a failure with
  the status of the lookup's failure. -/
theorem fetch_is_lookup (plain : Url.isOrigin origin)
    (reaches : Transport.target (clientOf origin).base = .ok home)
    (received : cluster.recipient home.authority = .node index)
    (present : cluster.node? index = some node) (base : node.basePath = Address.defaultBasePath)
    (stands : Stands group ∧ Stands key)
    (fits : { home with path := asked group key : Url }.text.length ≤ Url.longestSent)
    (hops : Nat) :
    let url := { home with path := asked group key : Url }
    let status (code : Nat) : Failure := .transport ("server returned: " ++ statusText code)
    let fetched := fetch (hops + 1) cluster (clientOf origin) group key
    (∀ number, node.registry.number? group = some number → ∀ time, ∃ answer,
      node.decide time (.get url.path) = .lookup number key answer ∧
      ∀ raw, (∀ octets, Client.receive raw url (delivered (answer (.ok octets))) = .ok octets) ∧
        ∀ cause, Client.receive raw url (delivered (answer (.error cause))) =
          .error (status cause.status)) ∧
    (node.registry.number? group = none →
      fetched = (cluster, [.request url], some (.error (status 404)))) ∧
    ∀ number, node.registry.number? group = some number →
      let looked := lookups hops cluster index number key 1
      fetched.1 = looked.1 ∧ fetched.2.1 = .request url :: looked.2.1 ∧
      (∀ octets, fetched.2.2 = some (.ok octets) ↔ looked.2.2.head? = some (.ok octets)) ∧
      (∀ failure, fetched.2.2 = some (.error failure) ↔
        ∃ cause, looked.2.2.head? = some (.error cause) ∧ failure = status cause.status) ∧
      (fetched.2.2 = none ↔ looked.2.2.head? = none) := by
  intro url status fetched
  have sent := target_of_reaches plain reaches fits
  have asks : cluster.asked? index url = some (node.decide "" (.get (asked group key))) := by
    rw [asked?, present, Option.map_some]
  have lands (times : Nat) : cluster.send ((clientOf origin).url group key) times url =
      ([.request url], .node index url) := by
    refine send_of_node ?_ _ times
    rw [authority_path, received]
  refine ⟨fun number known time => ?_, fun unknown => ?_, fun number known => ?_⟩
  · refine ⟨_, by rw [decide_sent base stands, known], fun raw => ⟨fun octets => ?_, fun cause => ?_⟩⟩
    · exact Client.receive_ofResult raw url _
    · exact Client.receive_ofResult raw url _
  · rw [decide_sent base stands, unknown] at asks
    refine (fetch_responded hops sent (lands _) asks).trans ?_
    rw [Client.receive_ofResult]
    rfl
  · intro looked
    rw [decide_sent base stands, known] at asks
    have isTold : fetched = (looked.1, .request url :: looked.2.1, looked.2.2.head?.map Client.told) :=
      fetch_lands hops sent (lands _) asks
    rw [isTold]
    refine ⟨rfl, rfl, fun octets => ?_, fun failure => ?_, Option.map_eq_none_iff⟩
    · simp only [Option.map_eq_some_iff, Client.told_eq_ok, exists_eq_right]
    · simp only [Option.map_eq_some_iff, Client.told_eq_error]
      constructor
      · rintro ⟨_, found, cause, rfl, isStatus⟩
        exact ⟨cause, found, isStatus⟩
      · rintro ⟨cause, found, isStatus⟩
        exact ⟨_, found, cause, rfl, isStatus⟩

/-- A node that serves one group under a plain origin, and owns all keys. -/
theorem fetch_from_one_node :
    let function (key : String) : Except String Octets := .ok (Utf8.encode key)
    let cluster := build [⟨"http://b:2", some "b:2", ["http://b:2"], 1,
      [("my group", 9, .ofFunction function)]⟩] []
    Url.isOrigin "http://b:2" ∧ (Stands "my group" ∧ Stands "a/b?") ∧
      (fetch (2 + 1) cluster (clientOf "http://b:2") "my group" "a/b?").1 =
        (lookups 2 cluster 0 0 "a/b?" 1).1 ∧
      (lookups 2 cluster 0 0 "a/b?" 1).2.2 = [.ok (Utf8.encode "a/b?")] ∧
      (fetch (2 + 1) cluster (clientOf "http://b:2") "my group" "a/b?").2.2 =
        some (.ok (Utf8.encode "a/b?")) := by
  intro function cluster
  have sendable : ({ scheme := "http", host := some "b", port := some 2, path := "/_cache/" } :
      Url).isSendable := by
    rw [isSendable_eq]
    decide +kernel
  have reaches : Transport.target (clientOf "http://b:2").base = .ok _ :=
    target_of_parse? (by decide +kernel) (by decide +kernel) rfl rfl sendable
  have stands : Stands "my group" ∧ Stands "a/b?" := by decide
  have received : cluster.recipient "b:2" = .node 0 := rfl
  obtain ⟨_, _, known⟩ := fetch_is_lookup (by decide) reaches received rfl
    (Setup.basePath_node _) stands (by decide +kernel) 2
  obtain ⟨same, _, ok, _⟩ := known 0 (by decide +kernel)
  have computes : cluster.Computes "my group" function := by
    refine computes_build (fun setup mem entry listed _ => ?_) (by decide) nofun nofun
    rw [List.mem_singleton.mp mem] at listed
    rw [List.mem_singleton.mp listed]
  obtain ⟨group, found, isName, nobody, unowned⟩ : ∃ group, cluster.group? 0 0 = some group ∧
      group.name = "my group" ∧ group.callers = [] ∧ group.world.owner? "a/b?" = none :=
    ⟨_, rfl, rfl, rfl, (Setup.picker_of_alone rfl (by decide) "a/b?").trans (if_pos (by decide))⟩
  have results : (lookups 2 cluster 0 0 "a/b?" 1).2.2 = [.ok (Utf8.encode "a/b?")] :=
    congrArg (fun looked => looked.2.2) (lookups_local found (computes.rests found isName) nobody
      (GroupState.isLocal_of_unowned unowned) 1 1)
  refine ⟨by decide, stands, same, results, (ok _).mpr ?_⟩
  rw [results]
  rfl

end Cluster

end RingCache
