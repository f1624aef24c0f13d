import RingCache.Proofs.Cluster.Reconfiguration
import RingCache.Proofs.Json.Escapes

/-!
# Bodies that are read as they were written

Envelopes and lists of peers travel as JSON. `Envelope.Spells` and `PeerList.Spells` lay down what is
written for them, and each is read back as the same text and the same list, whatever characters stand
in it. A list of peers is read by another reader than the one it is written for: the note before the
list is skipped. So every answer to a request for new peers can be sent as such a request, to the same
node or to another, and asks for the peers that the first node has
(`Cluster.bodies_are_read_as_written`).
-/

namespace RingCache

open Http
open Address (HasScheme)
open Json (IsSpecial Quotes)

/-! ## What is written -/

namespace Json

/-- Digits stand for themselves. -/
theorem not_isSpecial_of_isDigit {character : Char} (isDigit : character.isDigit) :
    ¬ IsSpecial character := by
  have bounds := isDigit_bounds isDigit
  rintro (rfl | rfl | control)
  · exact absurd bounds (by decide)
  · exact absurd bounds (by decide)
  · omega

end Json

/-- Whether a body is what is written for the text in an envelope. -/
def Envelope.Spells (text body : String) : Prop :=
  ∃ quoted, Quotes text quoted ∧ body = "\x7b\"value\":" ++ quoted ++ "\x7d"

/-- Whether a body is what is written for a list of peers, after a note that counts them. -/
def PeerList.Spells (peers : List String) (body : String) : Prop :=
  ∃ quoted, List.Forall₂ Quotes peers quoted ∧
    body = "\x7b\"message\":\"" ++ toString peers.length ++ " peers configured\",\"peers\":[" ++
      ",".intercalate quoted ++ "]\x7d"

/-- An envelope is written in one way. -/
theorem Envelope.spells_iff {text body : String} :
    Spells text body ↔ body = (Envelope.mk text).toJson.render := by
  have name : Json.Value.quoted "value" = "\"value\"".toList := by decide
  have written : (Envelope.mk text).toJson.render =
      "\x7b\"value\":" ++ String.ofList (Json.Value.quoted text) ++ "\x7d" := by
    simp [← String.toList_inj, Json.Value.render, toJson, Json.Value.chars, Json.Value.memberChars,
      name]
  simp [Spells, Json.quotes_iff, written]

namespace PeerList

/-- The note before a list is written as it is. -/
theorem quoted_note (count : Nat) : Json.Value.quoted (toString count ++ " peers configured") =
    '"' :: ((toString count).toList ++ " peers configured\"".toList) := by
  rw [Json.quoted_of_plain]
  · simp
  · intro character mem
    rw [String.toList_append, List.mem_append] at mem
    rcases mem with digit | word
    · exact Json.not_isSpecial_of_isDigit (Json.areDigitChars_toString count character digit)
    · have plain : " peers configured".toList.all fun character => ¬ IsSpecial character := by decide
      simpa using List.all_eq_true.mp plain character word

/-- An answer is written in one way. -/
theorem spells_iff {peers : List String} {body : String} :
    Spells peers body ↔ body = (answer peers).render := by
  have names : Json.Value.quoted "message" = "\"message\"".toList ∧
      Json.Value.quoted "peers" = "\"peers\"".toList := by decide
  have written : (answer peers).render =
      "\x7b\"message\":\"" ++ toString peers.length ++ " peers configured\",\"peers\":[" ++
        ",".intercalate (peers.map fun peer => String.ofList (Json.Value.quoted peer)) ++
        "]\x7d" := by
    have note := quoted_note peers.length
    rw [answer]
    -- Otherwise simp opens the count, and the note is not found again.
    generalize toString peers.length = count at note ⊢
    simp [← String.toList_inj, Json.Value.render, Json.Value.strings, Json.Value.chars,
      Json.Value.memberChars, names, note, Json.elementChars_strings, String.toList_intercalate,
      Function.comp_def]
  simp [Spells, Json.forall₂_quotes_iff, written]

end PeerList

/-! ## Answers that are sent again -/

namespace Cluster

variable {cluster : Cluster} {index : Nat}

/-- A request for new peers that succeeds is answered with the peers that the node now has, and there
are some. -/
theorem told_of_succeeds {time : String} {request : Request} (gives : request.GivesPeers)
    {response : Response} (answers : (cluster.serve index time request).2.2 = some response)
    (succeeds : response.status = 200) :
    ∃ after pool, (cluster.serve index time request).1.node? index = some after ∧
      after.pool = some pool ∧ pool.peers ≠ [] ∧
      response.body = Utf8.encode (PeerList.answer pool.peers).render := by
  cases present : cluster.node? index with
  | none => simp [serve, present] at answers
  | some node =>
      rcases serve_givesPeers present time gives with
        ⟨refusal, refused, refuses⟩ | ⟨peers, pool, replaced, _, accepted, isPool⟩
      · have status := refuses.status
        rw [refused, Option.some_inj] at answers
        rw [← Response.status_anyOrigin, answers, succeeds] at status
        exact absurd status (by decide)
      · have told : (node.setPeers peers).pool = some (pool.setPeers peers) :=
          (Node.asks_setPeers isPool peers).told
        rw [replaced, Option.some_inj] at answers
        refine ⟨node.setPeers peers, pool.setPeers peers, ?_, told, ?_, ?_⟩
        · rw [replaced, node?_setNode, present, Option.map_some, if_pos rfl]
        · exact (accepted.peers_setPeers pool).1
        · rw [← answers, Node.body_peersResponse told]

/-- Whatever text stands in an envelope, and whatever texts stand in a list of peers, there is one
body that is written for it, in which just the quotes, the backslashes and the control characters
are escaped, and this body is read as the same text or the same list. A list is read so from a body
that holds nothing else and from the front of one, the note before it being skipped. So every answer
to a request for new peers that succeeds holds the peers that the node now has, and asks for just
these if it is sent as a request itself: at any time, a node with a pool replaces its own peers by
them, or it finds fault with the address of one of them, but never with the form of the request. -/
theorem bodies_are_read_as_written :
    (∀ text : String,
      let body := (Envelope.mk text).toJson.render
      (∀ other, Envelope.Spells text other ↔ other = body) ∧
        Envelope.read (Utf8.encode body) = .ok ⟨text⟩) ∧
    (∀ peers : List String,
      let body := (PeerList.answer peers).render
      (∀ other, PeerList.Spells peers other ↔ other = body) ∧
        PeerList.read (Utf8.encode body) = .ok peers ∧
        PeerList.readBody (Utf8.encode body) = .ok peers) ∧
    ∀ (cluster : Cluster) (index : Nat) (time : String) (request : Request) (response : Response),
      let served := cluster.serve index time request
      request.GivesPeers → served.2.2 = some response → response.status = 200 →
        ∃ after pool, served.1.node? index = some after ∧ after.pool = some pool ∧
          response.body = Utf8.encode (PeerList.answer pool.peers).render ∧
          PeerList.read response.body = .ok pool.peers ∧
          PeerList.readBody response.body = .ok pool.peers ∧
          (response.body.length ≤ Node.bodyLimit →
            let again := PeerList.request response.body
            again.GivesPeers ∧ ∀ (other : Node) (laterTime : String), other.pool.isSome →
              (∀ peer ∈ pool.peers, HasScheme peer) ∧
                  other.decide laterTime again = .replacePeers pool.peers ∨
                ∃ peer ∈ pool.peers, ¬ HasScheme peer ∧
                  other.decide laterTime again = .respond (Response.failure
                    (.malformedRequest (PeerList.Fault.unsupported peer).message)).anyOrigin) := by
  refine ⟨fun text => ⟨fun other => Envelope.spells_iff, Envelope.read_toJson _⟩,
    fun peers => ⟨fun other => PeerList.spells_iff, PeerList.read_answer peers,
      PeerList.readBody_answer peers⟩, ?_⟩
  intro cluster index time request response served gives answers succeeds
  obtain ⟨after, pool, found, told, filled, body⟩ := told_of_succeeds gives answers succeeds
  have reads : PeerList.readBody response.body = .ok pool.peers := by
    rw [body, PeerList.readBody_answer]
  refine ⟨after, pool, found, told, body, by rw [body, PeerList.read_answer], reads, fun limited => ?_⟩
  have givesAgain := PeerList.givesPeers_request limited
  refine ⟨givesAgain, fun other laterTime hasPool => ?_⟩
  obtain ⟨otherPool, isPool⟩ := Option.isSome_iff_exists.mp hasPool
  exact Node.decide_of_reads isPool laterTime givesAgain reads filled

/-- A node is told a peer with a quote, a backslash, controls and an astral character in its
address. Its answer escapes the first ones, is read as the same peers, and asks for them again. -/
theorem odd_peers_are_read_again :
    let source : Source := .ofFunction fun key => .ok (Utf8.encode key)
    let setup : Setup := ⟨"http://a:1", some "a:1", ["http://a:1"], 1, [("scores", 64, source)]⟩
    let cluster := build [setup] []
    let peers := ["http://\x01\"\\\n\x7fé😀:2", "http://a:1"]
    let body := "\x7b\"message\":\"2 peers configured\",\"peers\":" ++
      "[\"http://\\u0001\\\"\\\\\\n\x7fé😀:2\",\"http://a:1\"]\x7d"
    let request := PeerList.request (Utf8.encode body)
    request.GivesPeers ∧ ∃ response, (cluster.serve 0 "" request).2.2 = some response ∧
      response.status = 200 ∧ response.body = Utf8.encode body ∧
      PeerList.read response.body = .ok peers ∧ response.body.length ≤ Node.bodyLimit ∧
      setup.node.decide "" (PeerList.request response.body) = .replacePeers peers := by
  intro source setup cluster peers body request
  have present : cluster.node? 0 = some setup.node := rfl
  have isBody : (PeerList.answer peers).render = body := by decide +kernel
  have limited : (Utf8.encode body).length ≤ Node.bodyLimit := by decide +kernel
  have gives : request.GivesPeers := PeerList.givesPeers_request limited
  have accepted : PeerList.Accepted peers := ⟨by decide, by decide⟩
  have reads : PeerList.readBody request.body = .ok peers := by
    rw [← PeerList.readBody_answer peers, isBody]
    rfl
  have listed : (setup.pool.setPeers peers).peers = peers :=
    accepted.peers_setPeers_eq_self setup.pool (by decide +kernel) (by decide)
  obtain ⟨replaced, told, _⟩ := asksAt_of_accepted present setup.pool_node "" gives reads accepted
  have answers := congrArg (fun served => served.2.2) replaced
  obtain ⟨after, pool, found, isTold, isAnswer, readsAgain, _, again⟩ :=
    bodies_are_read_as_written.2.2 cluster 0 "" request _ gives answers (Node.status_peersResponse _)
  have same : pool.peers = peers := by
    rw [replaced, node?_setNode, present, Option.map_some, if_pos rfl] at found
    obtain rfl := Option.some.inj found
    obtain rfl := Option.some.inj (told.symm.trans isTold)
    exact listed
  rw [same] at isAnswer readsAgain again
  rw [isBody] at isAnswer
  rw [← isAnswer] at limited
  obtain ⟨_, decides⟩ := again limited
  refine ⟨gives, _, answers, Node.status_peersResponse _, isAnswer, readsAgain, limited, ?_⟩
  rcases decides setup.node "" (by rw [setup.pool_node]; rfl) with
    ⟨_, taken⟩ | ⟨peer, listed, lacks, _⟩
  · exact taken
  · exact absurd (accepted.2 peer listed) lacks

end Cluster

end RingCache
