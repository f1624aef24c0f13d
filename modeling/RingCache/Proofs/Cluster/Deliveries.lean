import RingCache.Proofs.Cluster.Redirects
import RingCache.Proofs.Envelope
import RingCache.Proofs.Node.Exchange

/-!
# What a client takes from a host

A fetch may fail at every stage: there is no URL to ask for, no answer comes, the answer is no
success or ends early, its body is no envelope, or the envelope holds no octets. Each of them is a
failure of the transport, and beyond them there is one way for octets to arrive
(`Delivery.Brings`): as the whole body of a successful answer, in their own envelope. So whatever a
host sends that sends no client on, a client has from it the octets that were sealed there, or none
(`Cluster.only_sealed_octets_arrive`).
-/

namespace RingCache

/-! ## Answers -/

namespace Delivery

/-- The status and the body of an answer that is complete. An answer without content ends with its
head, so that what follows is not its body. -/
def whole? : Delivery → Option (Nat × Octets)
  | .answered status body false _ => some (status, if status = 204 then [] else body)
  | _ => none

/-- Whether octets come with a delivery: it is a complete answer with a status of success, whose
body is read as the envelope of these octets. -/
def Brings (delivery : Delivery) (octets : Octets) : Prop :=
  ∃ status body, delivery.whole? = some (status, body) ∧ 200 ≤ status ∧ status < 300 ∧
    Envelope.read body = .ok (Envelope.ofOctets octets)

/-- Every success with content can bring octets, whichever they are. -/
theorem brings_sealed {status : Nat} (atLeast : 200 ≤ status) (below : status < 300)
    (content : status ≠ 204) (octets : Octets) :
    (answered status (Utf8.encode (Envelope.ofOctets octets).toJson.render) false).Brings octets :=
  ⟨status, _, rfl, atLeast, below, by rw [if_neg content, Envelope.read_toJson]⟩

end Delivery

/-- An envelope that holds no octets is refused as a failure of the transport. -/
theorem Envelope.contents_cases (envelope : Envelope) :
    (∃ octets, envelope.contents = .ok octets) ∨
      ∃ detail, envelope.contents = .error (.transport detail) := by
  rw [contents]
  cases Base64.decode envelope.value with
  | ok octets => exact .inl ⟨octets, rfl⟩
  | error fault => exact .inr ⟨_, rfl⟩

namespace Client

variable {raw : String} {url : Url} {delivery : Delivery} {octets : Octets}

theorem isSuccess_iff {status : Nat} : isSuccess status = true ↔ 200 ≤ status ∧ status < 300 := by
  simp [isSuccess]

/-- A client judges a complete answer by its status, and then by its body. -/
theorem receive_of_whole {status : Nat} {body : Octets}
    (whole : delivery.whole? = some (status, body)) :
    receive raw url delivery =
      if isSuccess status then
        match Envelope.read body with
        | .error _ => .error Fault.body.failure
        | .ok envelope => envelope.contents
      else .error (Fault.status status).failure := by
  match delivery, whole with
  | .answered code sent false _, whole =>
      obtain ⟨rfl, rfl⟩ := Prod.mk.inj (Option.some.inj whole)
      rw [receive]
      cases isSuccess code <;> rfl

/-- Without a complete answer there is nothing to take. -/
theorem receive_of_broken (raw : String) (url : Url) (broken : delivery.whole? = none) :
    ∃ detail, receive raw url delivery = .error (.transport detail) := by
  match delivery, broken with
  | .lost, _ => exact ⟨_, rfl⟩
  | .answered status body true _, _ =>
      rw [receive]
      cases isSuccess status with
      | false => exact ⟨_, rfl⟩
      | true => exact ⟨_, rfl⟩

/-- Octets are taken from the deliveries that bring them. -/
theorem receive_eq_ok_iff : receive raw url delivery = .ok octets ↔ delivery.Brings octets := by
  cases whole : delivery.whole? with
  | none =>
      obtain ⟨detail, fails⟩ := receive_of_broken raw url whole
      simp [fails, Delivery.Brings, whole]
  | some answer =>
      obtain ⟨status, body⟩ := answer
      have brings : delivery.Brings octets ↔ isSuccess status = true ∧
          Envelope.read body = .ok (Envelope.ofOctets octets) := by
        simp [Delivery.Brings, whole, isSuccess_iff, and_assoc]
      rw [brings, receive_of_whole whole]
      cases isSuccess status with
      | false => simp
      | true =>
          cases Envelope.read body with
          | error flaw => simp
          | ok envelope => simp [Envelope.contents_eq_ok_iff]

/-- Whatever else a client is given is a failure of the transport. -/
theorem receive_cases (raw : String) (url : Url) (delivery : Delivery) :
    (∃ octets, receive raw url delivery = .ok octets) ∨
      ∃ detail, receive raw url delivery = .error (.transport detail) := by
  cases whole : delivery.whole? with
  | none => exact .inr (receive_of_broken raw url whole)
  | some answer =>
      rw [receive_of_whole whole]
      cases isSuccess answer.1 with
      | false => exact .inr ⟨_, rfl⟩
      | true =>
          cases Envelope.read answer.2 with
          | error flaw => exact .inr ⟨_, rfl⟩
          | ok envelope => exact envelope.contents_cases

end Client

/-! ## Fetches -/

namespace Cluster

open Transport (Reaches)

variable {cluster : Cluster} {client : Client} {group key : String} {host : Host}

/-- A host that stands for all receives every request, unless there are nodes. -/
theorem recipient_alone (host : Host) (authority : String) :
    recipient ⟨[], [("*", host)]⟩ authority = .host host := by
  have found : [("*", host)].lookup "*" = some host := List.lookup_cons_self
  rw [recipient, found]
  by_cases same : authority = "*"
  · rw [same, found]
    rfl
  · simp [List.lookup_cons, beq_eq_false_iff_ne.mpr same]

/-- A host that is no node is asked once, with a request that can be sent, and leaves the cluster as
it is, unless it sends clients on. -/
theorem ask_of_host (stays : host.stays)
    (received : ∀ url, Reaches (client.url group key) url →
      cluster.recipient url.authority = .host host) :
    (∃ fault, Transport.target (client.url group key) = .error fault ∧
        cluster.ask .online client group key = (cluster, [], some (.error fault.failure))) ∨
      ∃ url, Reaches (client.url group key) url ∧
        cluster.ask .online client group key = (cluster, [.request url],
          some (Client.receive (client.url group key) url (host.deliver url))) := by
  cases sent : Transport.target (client.url group key) with
  | error fault =>
      refine .inl ⟨fault, rfl, ?_⟩
      rw [ask, Transport.online, sent]
      rfl
  | ok url =>
      have reaches := Transport.target_eq_ok_iff.mp sent
      refine .inr ⟨url, reaches, ?_⟩
      have held : Transport.online (client.url group key) = .held := by rw [Transport.online, sent]
      rw [ask, held]
      dsimp only
      rw [hops, fetch_of_host sent (received url reaches) stays]

/-- A client on the network asks a host, which may do whatever it likes: end the connection, or
answer with any status and any body, cut or whole, as long as it does not send the client on. The
client is given octets exactly if its base, the group and the key make a URL that is asked over an
open connection, and a complete answer to it has a status of success and a body that is read as the
envelope of these octets. Otherwise it is given a failure of the transport, and never any other. It
asks at most once, and the cluster stays as it is. -/
theorem only_sealed_octets_arrive (cluster : Cluster) (client : Client) (group key : String)
    (host : Host) (stays : host.stays) (received : ∀ url, Reaches (client.url group key) url →
      cluster.recipient url.authority = .host host) :
    ∃ sights result, cluster.ask .online client group key = (cluster, sights, some result) ∧
      (∀ octets, result = .ok octets ↔
        ∃ url, Reaches (client.url group key) url ∧ (host.deliver url).Brings octets) ∧
      ((∀ octets, result ≠ .ok octets) → ∃ detail, result = .error (.transport detail)) ∧
      ((sights = [] ∧ ∀ url, ¬ Reaches (client.url group key) url) ∨
        ∃ url, sights = [.request url] ∧ Reaches (client.url group key) url) := by
  rcases ask_of_host stays received with ⟨fault, unsent, asked⟩ | ⟨url, reaches, asked⟩
  · have unreached (url : Url) : ¬ Reaches (client.url group key) url := by
      rw [← Transport.target_eq_ok_iff, unsent]
      exact nofun
    refine ⟨_, _, asked, fun octets => iff_of_false nofun ?_, fun _ => ⟨_, rfl⟩,
      .inl ⟨rfl, unreached⟩⟩
    exact fun ⟨url, reaches, _⟩ => unreached url reaches
  · refine ⟨_, _, asked, fun octets => ?_, fun none => ?_, .inr ⟨url, rfl, reaches⟩⟩
    · rw [Client.receive_eq_ok_iff]
      constructor
      · exact fun brings => ⟨url, reaches, brings⟩
      · rintro ⟨other, alsoReaches, brings⟩
        obtain rfl : url = other := by
          have same := (Transport.target_eq_ok_iff.mpr reaches).symm.trans
            (Transport.target_eq_ok_iff.mpr alsoReaches)
          exact Except.ok.inj same
        exact brings
    · rcases Client.receive_cases (client.url group key) url (host.deliver url) with
        ⟨octets, isValue⟩ | fails
      · exact absurd isValue (none octets)
      · exact fails

/-- The envelope of a value comes with an unusual status of success from one host, and is cut short
by another. -/
theorem sealed_score_arrives :
    let score := Utf8.encode "630"
    let body := Utf8.encode (Envelope.ofOctets score).toJson.render
    let client : Client := ⟨"http://b:2/_cache/"⟩
    let cluster (cut : Bool) : Cluster := ⟨[], [("*", .fixed 299 body cut)]⟩
    ((cluster false).ask .online client "scores" "Tom").2.2 = some (.ok score) ∧
      ∃ detail, ((cluster true).ask .online client "scores" "Tom").2.2 =
        some (.error (.transport detail)) := by
  intro score body client cluster
  let url : Url :=
    { scheme := "http", host := some "b", port := some 2, path := "/_cache/scores/Tom" }
  have sendable : url.isSendable := by
    rw [PeerPath.isSendable_eq]
    decide +kernel
  have reaches : Reaches (client.url "scores" "Tom") url :=
    ⟨by decide +kernel, rfl, rfl, sendable⟩
  obtain ⟨_, _, asked, whole, _⟩ := only_sealed_octets_arrive (cluster false) client "scores" "Tom"
    (.fixed 299 body false) rfl fun _ _ => recipient_alone _ _
  obtain ⟨_, _, askedCut, cut, fails, _⟩ := only_sealed_octets_arrive (cluster true) client "scores"
    "Tom" (.fixed 299 body true) rfl fun _ _ => recipient_alone _ _
  rw [asked, askedCut]
  refine ⟨congrArg some ((whole score).mpr ⟨url, reaches, ?_⟩), ?_⟩
  · exact Delivery.brings_sealed (by decide) (by decide) (by decide) score
  · obtain ⟨detail, isFailure⟩ := fails fun octets isValue => by
      obtain ⟨_, _, _, _, broken, _⟩ := (cut octets).mp isValue
      cases broken
    exact ⟨detail, congrArg some isFailure⟩

end Cluster

end RingCache
