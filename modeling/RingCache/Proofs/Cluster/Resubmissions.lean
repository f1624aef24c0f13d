import Mathlib.Data.Finset.Max
import RingCache.Proofs.Cluster.Reconfiguration

/-!
# Peers that are reported and given again

The answer to a request for new peers is itself such a request, for the peers that the node now has.
To give a node these peers changes them if normal forms are not normal: if one of them has lost the
slashes of its scheme, the list is refused, and if one ends with a blank, it gets shorter. No longer
address can make up for the longest one that gets shorter. So the node takes the peers again and
gives the same answer exactly if all addresses last (`Cluster.reported_peers_are_taken_again_iff`).
-/

namespace RingCache

open Http
open Address (HasScheme Lasting normalize)

/-! ## Lists of normal forms -/

namespace PeerList

variable {peers : List String}

/-- If every address of a list is the normal form of one of them, then none gets shorter: the
longest one that did would be the normal form of a longer one that did. -/
theorem normalize_eq_self_of_onto
    (onto : ∀ address ∈ peers, ∃ peer ∈ peers, normalize peer = address)
    (shortens : ∀ peer ∈ peers, normalize peer = peer ∨ (normalize peer).length < peer.length) :
    ∀ peer ∈ peers, normalize peer = peer := by
  by_contra changes
  push Not at changes
  obtain ⟨some, listed, changed⟩ := changes
  let changing := peers.toFinset.filter fun peer => normalize peer ≠ peer
  have filled : changing.Nonempty := ⟨some, by simp [changing, listed, changed]⟩
  obtain ⟨longest, mem, isLongest⟩ := changing.exists_max_image String.length filled
  obtain ⟨longestListed, longestChanges⟩ : longest ∈ peers ∧ normalize longest ≠ longest := by
    simpa [changing] using mem
  obtain ⟨peer, peerListed, rfl⟩ := onto longest longestListed
  rcases shortens peer peerListed with same | shorter
  · exact longestChanges (congrArg normalize same)
  · have peerChanges : normalize peer ≠ peer := fun same => by simp [same] at shorter
    have atMost := isLongest peer (by simp [changing, peerListed, peerChanges])
    exact Nat.not_lt.mpr atMost shorter

/-- The peers that a pool lists are accepted again and listed again exactly if all addresses last
that it was told. -/
theorem Accepted.taken_again_iff (accepted : Accepted peers) (pool : Pool) :
    let reported := (pool.setPeers peers).peers
    (Accepted reported ∧ ((pool.setPeers peers).setPeers reported).peers = reported) ↔
      ∀ peer ∈ peers, Lasting peer := by
  intro reported
  obtain ⟨filled, ascend, members⟩ := accepted.peers_setPeers pool
  constructor
  · rintro ⟨again, same⟩ peer listed
    obtain ⟨_, _, membersAgain⟩ := again.peers_setPeers (pool.setPeers peers)
    have isNormal : ∀ address ∈ reported, normalize address = address := by
      refine normalize_eq_self_of_onto (fun address mem => ?_) fun address mem => ?_
      · exact (membersAgain address).mp (by rwa [same])
      · obtain ⟨peer, _, rfl⟩ := (members address).mp mem
        rcases Address.normalize_normalize_cases (again.2 _ mem) with ⟨_, stays⟩ | ⟨_, shorter⟩
        · exact .inl stays
        · exact .inr shorter
    have mem : normalize peer ∈ reported := (members _).mpr ⟨peer, listed, rfl⟩
    exact (Address.lasting_iff (accepted.2 peer listed)).mpr ⟨again.2 _ mem, isNormal _ mem⟩
  · intro lasting
    have lasts : ∀ peer ∈ peers,
        HasScheme (normalize peer) ∧ normalize (normalize peer) = normalize peer := fun peer listed =>
      (Address.lasting_iff (accepted.2 peer listed)).mp (lasting peer listed)
    have again : Accepted reported := by
      refine ⟨filled, fun address mem => ?_⟩
      obtain ⟨peer, listed, rfl⟩ := (members address).mp mem
      exact (lasts peer listed).1
    refine ⟨again, again.peers_setPeers_eq_self _ ascend fun address mem => ?_⟩
    obtain ⟨peer, listed, rfl⟩ := (members address).mp mem
    exact (lasts peer listed).2

end PeerList

/-- Nodes answer alike exactly if they have the same peers. -/
theorem Node.peersResponse_eq_iff {node other : Node} :
    node.peersResponse = other.peersResponse ↔ node.peers = other.peers := by
  refine ⟨fun same => ?_, fun same => by rw [peersResponse, peersResponse, same]⟩
  have sameBody := congrArg Response.body same
  rw [peersResponse, peersResponse, Response.body_anyOrigin, Response.body_anyOrigin,
    Response.body_json, Response.body_json] at sameBody
  have read := PeerList.readBody_answer node.peers
  rw [sameBody, PeerList.readBody_answer] at read
  exact (Except.ok.inj read).symm

namespace Cluster

variable {cluster : Cluster} {index : Nat}

/-- Every answer to a request for new peers that is accepted is itself such a request, for the peers
that the node now has. If a node is given them, at any time before it is given others, it takes them
and answers as before exactly if every address of the first request lasts: if its normal form is
accepted as an address and is a normal form. -/
theorem reported_peers_are_taken_again_iff {node : Node} {pool : Pool}
    (present : cluster.node? index = some node) (isPool : node.pool = some pool) (time : String)
    {request : Request} (gives : request.GivesPeers) {peers : List String}
    (reads : PeerList.readBody request.body = .ok peers) (accepted : PeerList.Accepted peers) :
    let served := cluster.serve index time request
    let reported := (pool.setPeers peers).peers
    (∀ peer ∈ peers, Lasting peer ↔
      HasScheme (normalize peer) ∧ normalize (normalize peer) = normalize peer) ∧
    ∃ response, served.2.2 = some response ∧ response.status = 200 ∧
      PeerList.readBody response.body = .ok reported ∧
      ∀ next, Later index served.1 next → ∀ (laterTime : String) (again : Request),
        again.GivesPeers → PeerList.readBody again.body = .ok reported →
          ((next.serve index laterTime again).2.2 = some response ↔
            ∀ peer ∈ peers, Lasting peer) := by
  intro served reported
  obtain ⟨replaced, told, asks⟩ := asksAt_of_accepted present isPool time gives reads accepted
  have body : (node.setPeers peers).peersResponse.body =
      Utf8.encode (PeerList.answer reported).render := Node.body_peersResponse told
  refine ⟨fun peer listed => Address.lasting_iff (accepted.2 peer listed),
    (node.setPeers peers).peersResponse, congrArg (fun served => served.2.2) replaced,
    Node.status_peersResponse _, by rw [body, PeerList.readBody_answer],
    fun next later laterTime again givesAgain readsAgain => ?_⟩
  obtain ⟨after, found, stillAsks⟩ := asks next later
  refine Iff.trans ?_ (accepted.taken_again_iff pool)
  rcases serve_givesPeers found laterTime givesAgain with
    ⟨refusal, refused, refuses⟩ | ⟨others, _, replacedAgain, readsOthers, acceptedAgain, _⟩
  · refine iff_of_false (fun sameAnswer => ?_) fun taken => ?_
    · have sameStatus := congrArg Response.status (Option.some.inj (refused ▸ sameAnswer))
      have status := refuses.status
      rw [← Response.status_anyOrigin, sameStatus, Node.status_peersResponse] at status
      exact absurd status (by decide)
    · cases stillAsks.told.symm.trans (refuses.not_accepted readsAgain taken.1)
  · obtain rfl : reported = others := Except.ok.inj (readsAgain.symm.trans readsOthers)
    have toldAgain : (after.setPeers reported).pool =
        some ((pool.setPeers peers).setPeers reported) :=
      (Node.asks_setPeers stillAsks.told reported).told
    rw [replacedAgain, Option.some_inj, Node.peersResponse_eq_iff, Node.peers, Node.peers, told,
      toldAgain]
    exact (and_iff_right acceptedAgain).symm

/-- A node takes the peers again that it was told with a blank and a slash after one of them, and
refuses what is left of an address that was nothing but a scheme. -/
theorem spaced_peers_are_taken_again :
    let source : Source := .ofFunction fun key => .ok (Utf8.encode key)
    let setup : Setup := ⟨"http://a:1", some "a:1", ["http://a:1"], 1, [("scores", 64, source)]⟩
    let cluster := build [setup] []
    let asking (body : String) := PeerList.request (Utf8.encode body)
    let spaced := asking "\x7b\"peers\":[\"http://b:2/ \",\"http://a:1\"]\x7d"
    let reported := asking "\x7b\"peers\":[\"http://a:1\",\"http://b:2\"]\x7d"
    let bare := asking "\x7b\"peers\":[\"http://\"]\x7d"
    let left := asking "\x7b\"peers\":[\"http:\"]\x7d"
    (∃ response, (cluster.serve 0 "" spaced).2.2 = some response ∧
      PeerList.readBody response.body = .ok ["http://a:1", "http://b:2"] ∧
      ((cluster.serve 0 "" spaced).1.serve 0 "" reported).2.2 = some response) ∧
    ∃ response, (cluster.serve 0 "" bare).2.2 = some response ∧ response.status = 200 ∧
      PeerList.readBody response.body = .ok ["http:"] ∧
      ((cluster.serve 0 "" bare).1.serve 0 "" left).2.2 ≠ some response := by
  intro source setup cluster asking spaced reported bare left
  have present : cluster.node? 0 = some setup.node := rfl
  have ends : normalize "http://b:2/ " = "http://b:2" ∧ normalize "http://a:1" = "http://a:1" ∧
      normalize "http://" = "http:" := by decide
  constructor
  · have givesSpaced : spaced.GivesPeers := PeerList.givesPeers_request (by decide +kernel)
    have reads : PeerList.readBody spaced.body = .ok ["http://b:2/ ", "http://a:1"] := by
      decide +kernel
    have accepted : PeerList.Accepted ["http://b:2/ ", "http://a:1"] := ⟨by decide, by decide⟩
    have listed : (setup.pool.setPeers ["http://b:2/ ", "http://a:1"]).peers =
        ["http://a:1", "http://b:2"] := by
      obtain ⟨_, ascend, members⟩ := accepted.peers_setPeers setup.pool
      refine ascend.eq_of_mem_iff (by decide +kernel) fun address => ?_
      simp [members, ends, eq_comm, or_comm]
    have taken := reported_peers_are_taken_again_iff present setup.pool_node "" givesSpaced reads
      accepted
    dsimp only at taken
    rw [listed] at taken
    obtain ⟨_, response, answered, _, lists, again⟩ := taken
    have readsAgain : PeerList.readBody reported.body = .ok ["http://a:1", "http://b:2"] := by
      decide +kernel
    have givesAgain : reported.GivesPeers := PeerList.givesPeers_request (by decide +kernel)
    have lasting : ∀ peer ∈ ["http://b:2/ ", "http://a:1"], Lasting peer := by decide
    exact ⟨response, answered, lists,
      (again (cluster.serve 0 "" spaced).1 .now "" reported givesAgain readsAgain).mpr lasting⟩
  · have givesBare : bare.GivesPeers := PeerList.givesPeers_request (by decide +kernel)
    have reads : PeerList.readBody bare.body = .ok ["http://"] := by decide +kernel
    have accepted : PeerList.Accepted ["http://"] := ⟨by decide, by decide⟩
    have listed : (setup.pool.setPeers ["http://"]).peers = ["http:"] := by
      obtain ⟨_, ascend, members⟩ := accepted.peers_setPeers setup.pool
      refine ascend.eq_of_mem_iff (by decide +kernel) fun address => ?_
      simp [members, ends, eq_comm]
    have taken := reported_peers_are_taken_again_iff present setup.pool_node "" givesBare reads
      accepted
    dsimp only at taken
    rw [listed] at taken
    obtain ⟨_, response, answered, succeeds, lists, again⟩ := taken
    have readsAgain : PeerList.readBody left.body = .ok ["http:"] := by decide +kernel
    have givesAgain : left.GivesPeers := PeerList.givesPeers_request (by decide +kernel)
    have notLasting : ¬ ∀ peer ∈ ["http://"], Lasting peer := by decide
    exact ⟨response, answered, succeeds, lists, fun same => notLasting
      ((again (cluster.serve 0 "" bare).1 .now "" left givesAgain readsAgain).mp same)⟩

end Cluster

end RingCache
