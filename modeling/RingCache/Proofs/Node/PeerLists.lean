import RingCache.Proofs.Json.TextLists
import RingCache.Proofs.Node.Answers
import RingCache.Proofs.Pool.Addresses
import RingCache.Proofs.Pool.Topology

/-!
# Requests for new peers

A node takes new peers from a request in four steps, each of which may refuse it: the body is read,
the list has to name somebody, everybody on it has to have an address with a scheme, and the node
needs a pool. `Node.Refuses` says how each of them is answered. A node that reads the body either
refuses the request so, or replaces its peers by the whole list (`Node.decide_of_givesPeers`).
-/

namespace RingCache

open Http
open Address (HasScheme)

/-! ## Lists of peers -/

namespace PeerList

/-- Whether a list names somebody, and everybody by an address with a scheme. -/
def Accepted (peers : List String) : Prop :=
  peers ≠ [] ∧ ∀ peer ∈ peers, HasScheme peer

variable {peers : List String}

theorem fault?_eq_none_iff : fault? peers = none ↔ Accepted peers := by
  rw [fault?, Accepted]
  cases peers with
  | nil => simp
  | cons first rest => simp [Address.isSupported_iff]

/-- A list that is not accepted is empty, or has a first address without a scheme. -/
theorem fault?_eq_some {fault : Fault} (found : fault? peers = some fault) :
    peers = [] ∧ fault = .empty ∨
      ∃ front peer back, peers = front ++ peer :: back ∧ (∀ other ∈ front, HasScheme other) ∧
        ¬ HasScheme peer ∧ fault = .unsupported peer := by
  rw [fault?] at found
  split at found
  · rename_i nobody
    exact .inl ⟨List.isEmpty_iff.mp nobody, (Option.some.inj found).symm⟩
  · obtain ⟨peer, isFirst, rfl⟩ := Option.map_eq_some_iff.mp found
    obtain ⟨fails, front, back, split, before⟩ := List.find?_eq_some_iff_append.mp isFirst
    refine .inr ⟨front, peer, back, split, fun other mem => ?_, fun scheme => ?_, rfl⟩
    · exact Address.isSupported_iff.mp (by simpa using before other mem)
    · simp [Address.isSupported_iff.mpr scheme] at fails

/-- A pool that is told an accepted list lists the normal forms of its addresses, each once and in
order, and there are some. -/
theorem Accepted.peers_setPeers (accepted : Accepted peers) (pool : Pool) :
    (pool.setPeers peers).peers ≠ [] ∧ (pool.setPeers peers).peers.Pairwise (· < ·) ∧
      ∀ address, address ∈ (pool.setPeers peers).peers ↔
        ∃ peer ∈ peers, Address.normalize peer = address := by
  obtain ⟨ascend, lists⟩ := pool.peers_setPeers peers
  have members : ∀ address, address ∈ (pool.setPeers peers).peers ↔
      ∃ peer ∈ peers, Address.normalize peer = address := by
    intro address
    rw [lists, Pool.mem_addresses]
    refine and_iff_right_of_imp ?_
    rintro ⟨peer, mem, rfl⟩
    exact (accepted.2 peer mem).normalize_ne_empty
  refine ⟨?_, ascend, members⟩
  obtain ⟨peer, mem⟩ := List.exists_mem_of_ne_nil peers accepted.1
  exact List.ne_nil_of_mem ((members _).mpr ⟨peer, mem, rfl⟩)

/-- A pool lists an accepted list as it is if the addresses are normal forms and ascend. -/
theorem Accepted.peers_setPeers_eq_self (accepted : Accepted peers) (pool : Pool)
    (ascend : peers.Pairwise (· < ·)) (normal : ∀ peer ∈ peers, Address.normalize peer = peer) :
    (pool.setPeers peers).peers = peers := by
  obtain ⟨_, ascendListed, members⟩ := accepted.peers_setPeers pool
  refine ascendListed.eq_of_mem_iff ascend fun address => ?_
  rw [members]
  constructor
  · rintro ⟨peer, mem, rfl⟩
    rwa [normal peer mem]
  · exact fun mem => ⟨address, mem, normal address mem⟩

/-- The answer to a request for new peers is a request for the same peers. -/
theorem readBody_answer (peers : List String) :
    readBody (Utf8.encode (answer peers).render) = .ok peers := by
  rw [readBody, Json.readLeading, answer, field, reader, Json.readRecord_noted (by decide)]
  rfl

/-- Nothing else stands in it. -/
theorem read_answer (peers : List String) : read (Utf8.encode (answer peers).render) = .ok peers := by
  rw [read, Json.readWhole, answer, field, reader, Json.readRecord_noted (by decide)]

end PeerList

/-! ## Requests -/

namespace Http.MediaType

theorem isToken_eq (character : Char) : isToken character =
    (character.isAlphanum || decide (character ∈ "!#$%&'*+-.^_\x60|~".toList)) := by
  rw [isToken, String.contains_char_eq]

/-- JSON is announced by its own type. -/
theorem isJson_jsonType : isJson Response.jsonType := by
  rw [Response.jsonType, isJson, funext isToken_eq]
  decide +kernel

end Http.MediaType

/-- Whether a request asks for new peers in such a form that its body is read. -/
structure Http.Request.GivesPeers (request : Request) : Prop where
  method : request.method = "PUT"
  route : Route.ofPath request.path = .peers
  typed : (request.header? "content-type").any MediaType.isJson
  limited : request.body.length ≤ Node.bodyLimit

/-- A request for new peers with a body. -/
def PeerList.request (body : Octets) : Request :=
  ⟨"PUT", "/peers", [("content-type", Response.jsonType)], body⟩

/-- Such a request is read if its body is not too long. -/
theorem PeerList.givesPeers_request {body : Octets} (limited : body.length ≤ Node.bodyLimit) :
    (request body).GivesPeers where
  method := rfl
  route := by
    have path : (request body).path = "/peers" := by
      have target : "/peers".toList = '/' :: "peers".toList := by decide
      rw [Request.path, request, target]
      decide +kernel
    rw [path]
    decide +kernel
  typed := by
    have named : "content-type".map Char.toLower = "content-type" := by decide +kernel
    simp [request, Request.header?, named, MediaType.isJson_jsonType]
  limited := limited

namespace Node

/-- How a node refuses a request for new peers with a body. -/
inductive Refuses (node : Node) (body : Octets) : Response → Prop where
  /-- The body is no JSON. -/
  | broken (flaw : Json.Flaw) (fails : PeerList.readBody body = .error flaw)
      (breaks : flaw ≠ .mismatched) : Refuses node body (Response.rejection 400)
  /-- The body is JSON of another shape. -/
  | mismatched (fails : PeerList.readBody body = .error .mismatched) :
      Refuses node body (Response.rejection 422)
  /-- The list names nobody. -/
  | empty (reads : PeerList.readBody body = .ok []) :
      Refuses node body (Response.failure (.malformedRequest PeerList.Fault.empty.message))
  /-- The list names somebody by an address without a scheme, of whom the first is reported. -/
  | unsupported (front : List String) (peer : String) (back : List String)
      (reads : PeerList.readBody body = .ok (front ++ peer :: back))
      (before : ∀ other ∈ front, HasScheme other) (lacks : ¬ HasScheme peer) :
      Refuses node body
        (Response.failure (.malformedRequest (PeerList.Fault.unsupported peer).message))
  /-- The list is accepted, but the node has no pool. -/
  | poolless (peers : List String) (reads : PeerList.readBody body = .ok peers)
      (accepted : PeerList.Accepted peers) (alone : node.pool = none) :
      Refuses node body (Response.failure (.internal "node has no peer pool"))

variable {node : Node} {request : Request} {body : Octets} {response : Response}

theorem Refuses.status (refuses : node.Refuses body response) :
    response.status ∈ [400, 422, 500] := by
  cases refuses <;> simp [Failure.status]

/-- A request is not refused whose list is accepted, if the node has a pool. -/
theorem Refuses.not_accepted (refuses : node.Refuses body response) {peers : List String}
    (reads : PeerList.readBody body = .ok peers) (accepted : PeerList.Accepted peers) :
    node.pool = none := by
  cases refuses with
  | broken flaw fails breaks =>
      rw [fails] at reads
      cases reads
  | mismatched fails =>
      rw [fails] at reads
      cases reads
  | empty readsNobody =>
      rw [readsNobody] at reads
      cases reads
      exact absurd rfl accepted.1
  | unsupported front peer back readsOther before lacks =>
      rw [readsOther] at reads
      cases reads
      exact absurd (accepted.2 peer (by simp)) lacks
  | poolless _ _ _ alone => exact alone

/-- A node refuses the request, or it has a pool and replaces its peers. -/
theorem decidePeers_cases (node : Node) (gives : request.GivesPeers) :
    (∃ response, node.decidePeers request = .respond response ∧
      node.Refuses request.body response) ∨
    ∃ peers pool, node.decidePeers request = .replacePeers peers ∧
      PeerList.readBody request.body = .ok peers ∧ PeerList.Accepted peers ∧
        node.pool = some pool := by
  rw [decidePeers, if_neg (by simp [gives.typed]), if_neg (Nat.not_lt.mpr gives.limited)]
  split
  · rename_i fails
    exact .inl ⟨_, rfl, .mismatched fails⟩
  · rename_i flaw breaks fails
    exact .inl ⟨_, rfl, .broken flaw fails breaks⟩
  · rename_i peers reads
    split
    · rename_i fault found
      rcases PeerList.fault?_eq_some found with
        ⟨rfl, rfl⟩ | ⟨front, peer, back, rfl, before, lacks, rfl⟩
      · exact .inl ⟨_, rfl, .empty reads⟩
      · exact .inl ⟨_, rfl, .unsupported front peer back reads before lacks⟩
    · rename_i found alone
      exact .inl ⟨_, rfl, .poolless peers reads (PeerList.fault?_eq_none_iff.mp found) alone⟩
    · rename_i pool found isPool
      exact .inr ⟨peers, pool, rfl, reads, PeerList.fault?_eq_none_iff.mp found, isPool⟩

/-- New peers are answered with a list of them. -/
theorem body_peersResponse {pool : Pool} (isPool : node.pool = some pool) :
    node.peersResponse.body = Utf8.encode (PeerList.answer pool.peers).render := by
  rw [peersResponse, peers, isPool, Response.body_anyOrigin, Response.body_json, Option.elim_some]

/-- What a node decides about such a request is what it makes of the body. -/
theorem decide_of_givesPeers (node : Node) (time : String) (gives : request.GivesPeers) :
    node.decide time request = (node.decidePeers request).mapResponse Response.anyOrigin := by
  rw [decide, gives.route, gives.method]
  rfl

/-- A node with a pool that reads a list of peers replaces its own by this list, unless it finds fault
with the address of somebody on it. -/
theorem decide_of_reads {pool : Pool} (isPool : node.pool = some pool) (time : String)
    (gives : request.GivesPeers) {peers : List String}
    (reads : PeerList.readBody request.body = .ok peers) (filled : peers ≠ []) :
    (∀ peer ∈ peers, HasScheme peer) ∧ node.decide time request = .replacePeers peers ∨
      ∃ peer ∈ peers, ¬ HasScheme peer ∧ node.decide time request = .respond
        (Response.failure (.malformedRequest (PeerList.Fault.unsupported peer).message)).anyOrigin := by
  rw [node.decide_of_givesPeers time gives]
  rcases node.decidePeers_cases gives with
    ⟨response, decided, refuses⟩ | ⟨others, _, decided, readsOthers, accepted, _⟩
  · rw [decided]
    cases refuses with
    | broken flaw fails breaks => cases reads.symm.trans fails
    | mismatched fails => cases reads.symm.trans fails
    | empty readsNobody =>
        cases reads.symm.trans readsNobody
        exact absurd rfl filled
    | unsupported front peer back readsOthers before lacks =>
        cases reads.symm.trans readsOthers
        exact .inr ⟨peer, by simp, lacks, rfl⟩
    | poolless others readsOthers accepted alone => cases isPool.symm.trans alone
  · cases reads.symm.trans readsOthers
    rw [decided]
    exact .inl ⟨accepted.2, rfl⟩

end Node

end RingCache
