import RingCache.Cluster

/-!
# Where requests end

A request ends at the node that receives it, or at a host, unless the host sends the client on. So
wherever it ends, this is where the last URL that was seen leads (`Cluster.recipient_of_send`), and
if no host sends clients on (`Cluster.Direct`), it ends where it is sent (`Cluster.Direct.send_eq`).
-/

namespace RingCache

/-- Whether a host sends no client on: it never answers with a location and a status that makes
clients follow it. -/
def Host.stays : Host → Bool
  | .echo => true
  | .down => true
  | .fixed status _ _ location => !Client.isRedirect status || location.isNone

theorem Host.redirect?_of_stays {host : Host} (stays : host.stays) (asked url : Url) :
    Client.redirect? asked (host.deliver url) = none := by
  cases host with
  | echo => rfl
  | down => rfl
  | fixed status body cut location =>
      cases location with
      | none => rfl
      | some location =>
          have elsewhere : Client.isRedirect status = false := by simpa [Host.stays] using stays
          simp [Host.deliver, Client.redirect?, elsewhere]

namespace Cluster

variable {cluster : Cluster} {raw : String} {times index : Nat} {url last : Url} {host : Host}
  {sights : List Sight} {landing : Landing}

theorem send_of_node (received : cluster.recipient url.authority = .node index) (raw : String)
    (times : Nat) : cluster.send raw times url = ([.request url], .node index url) := by
  rw [send.eq_def, received]

theorem send_of_host (received : cluster.recipient url.authority = .host host)
    (stays : Client.redirect? url (host.deliver url) = none) (raw : String) (times : Nat) :
    cluster.send raw times url =
      ([.request url], .settled (Client.receive raw url (host.deliver url))) := by
  rw [send.eq_def, received]
  dsimp only
  rw [stays]

/-- A fetch from a host that sends no client on gives what the client takes from its answer. -/
theorem fetch_of_host {client : Client} {group key : String}
    (sent : Transport.target (client.url group key) = .ok url)
    (received : cluster.recipient url.authority = .host host) (stays : host.stays) (hops : Nat) :
    fetch (hops + 1) cluster client group key = (cluster, [.request url],
      some (Client.receive (client.url group key) url (host.deliver url))) := by
  rw [fetch, sent]
  dsimp only
  rw [send_of_host received (Host.redirect?_of_stays stays url url)]

/-- A node at which a request ends received it under a URL that was seen. -/
theorem recipient_of_send (lands : cluster.send raw times url = (sights, .node index last)) :
    cluster.recipient last.authority = .node index ∧ .request last ∈ sights := by
  fun_induction send cluster raw times url generalizing sights with
  | case1 times url reached received =>
      obtain ⟨rfl, isNode⟩ := Prod.mk.inj lands
      obtain ⟨rfl, rfl⟩ := Landing.node.inj isNode
      exact ⟨received, List.mem_cons_self⟩
  | case2 | case3 | case4 => cases lands
  | case5 =>
      rename_i seen landing isSent inductionHypothesis
      obtain ⟨rfl, rfl⟩ := Prod.mk.inj lands
      obtain ⟨reached, listed⟩ := inductionHypothesis isSent
      exact ⟨reached, List.mem_cons_of_mem _ listed⟩

/-- Who is no node is one of the hosts, or is down. -/
theorem host_of_recipient (holds : Host → Bool) (listed : ∀ host ∈ cluster.hosts, holds host.2)
    (down : holds .down) {authority : String}
    (received : cluster.recipient authority = .host host) : holds host := by
  rw [recipient] at received
  split at received
  · cases received
  · rw [← Recipient.host.inj received]
    have lookedUp : ∀ {other found}, cluster.hosts.lookup other = some found → holds found := by
      intro other found isFound
      obtain ⟨front, back, split, _⟩ := List.lookup_eq_some_iff.mp isFound
      refine listed (other, found) ?_
      rw [split]
      exact List.mem_append_right _ List.mem_cons_self
    cases found : (cluster.hosts.lookup authority).or (cluster.hosts.lookup "*") with
    | none => exact down
    | some other =>
        rcases Option.or_eq_some_iff.mp found with direct | ⟨_, general⟩
        · exact lookedUp direct
        · exact lookedUp general

/-- Whether no host of a cluster sends clients on. -/
def Direct (cluster : Cluster) : Prop :=
  ∀ host ∈ cluster.hosts, host.2.stays

/-- Then requests end where they are sent. -/
theorem Direct.send_eq (direct : cluster.Direct) (raw : String) (times : Nat) (url : Url) :
    cluster.send raw times url = ([.request url],
      match cluster.recipient url.authority with
      | .node index => .node index url
      | .host host => .settled (Client.receive raw url (host.deliver url))) := by
  cases received : cluster.recipient url.authority with
  | node index => exact send_of_node received raw times
  | host host =>
      have stays : host.stays := host_of_recipient Host.stays direct rfl received
      exact send_of_host received (Host.redirect?_of_stays stays url url) raw times

/-- So one request is seen. -/
theorem Direct.sights_of_send (direct : cluster.Direct)
    (lands : cluster.send raw times url = (sights, landing)) : sights = [.request url] := by
  rw [direct.send_eq] at lands
  exact (Prod.mk.inj lands).1.symm

/-- A request that ends at a node was sent there. -/
theorem Direct.eq_of_send (direct : cluster.Direct)
    (lands : cluster.send raw times url = (sights, .node index last)) : last = url := by
  rw [direct.send_eq] at lands
  have isNode := (Prod.mk.inj lands).2
  split at isNode
  · exact (Landing.node.inj isNode).2.symm
  · cases isNode

end Cluster

end RingCache
