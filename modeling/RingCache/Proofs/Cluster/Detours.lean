import RingCache.Proofs.Cluster.Fetches
import RingCache.Proofs.Cluster.Frames

/-!
# Requests that a host sends on

A client follows a location, and takes the answer that it finds there for the answer to its own
request. If a host sends it on to a node, it is told of a lookup there of whatever key the location
names (`Cluster.fetch_sent_on`), and all who wait for it return this value
(`Cluster.lookups_sent_on`). So a lookup may return the value of another key, and that there is no
such host is no idle condition of `Cluster.results_are_values`
(`Cluster.location_leads_to_another_value`).
-/

namespace RingCache.Cluster

open Http

variable {cluster : Cluster} {name key asks : String} {function : String → Except String Octets}
  {index number home place : Nat} {group homeGroup : Group} {url location next : Url} {host : Host}
  {octets : Octets}

/-- An answer with a location sends a client on, if its status says so. -/
theorem redirect?_of_location {status : Nat} (goes : Client.isRedirect status) {text : String}
    (joined : url.join? text = some next) (sendable : next.isSendable) (body : Octets) (cut : Bool) :
    Client.redirect? url (.answered status body cut (some text)) = some next := by
  rw [Client.redirect?, if_pos goes]
  exact Option.filter_eq_some_iff.mpr ⟨joined, sendable⟩

/-- A host that sends a client on to a node is asked once, and so is the node. -/
theorem send_of_redirect {raw : String} (times : Nat)
    (received : cluster.recipient url.authority = .host host)
    (redirects : Client.redirect? url (host.deliver url) = some location)
    (permitted : Transport.permit raw location = .ok next)
    (reaches : cluster.recipient next.authority = .node home) :
    cluster.send raw (times + 1) url = ([.request url, .request next], .node home next) := by
  rw [send.eq_def, received]
  dsimp only
  rw [redirects]
  dsimp only
  rw [permitted]
  dsimp only
  rw [send_of_node reaches]

/-- So the client is told of a lookup of the key that the location names. -/
theorem fetch_sent_on {client : Client} (hops : Nat)
    (sent : Transport.target (client.url name key) = .ok url)
    (received : cluster.recipient url.authority = .host host)
    (redirects : Client.redirect? url (host.deliver url) = some location)
    (permitted : Transport.permit (client.url name key) location = .ok next)
    (reaches : cluster.recipient next.authority = .node home)
    (looks : cluster.asked? home next =
      some (.lookup place asks fun result => (Response.ofResult true result).anyOrigin)) :
    let looked := lookups hops cluster home place asks 1
    fetch (hops + 1) cluster client name key =
      (looked.1, .request url :: .request next :: looked.2.1,
        looked.2.2.head?.map Client.told) :=
  fetch_lands hops sent (send_of_redirect 9 received redirects permitted reaches) looks

/-- All who wait for it return the value that the node has for this key. -/
theorem lookups_sent_on (settled : cluster.Settled)
    (found : cluster.group? index number = some group)
    (rests : (GroupState.promises name function).Rests group) (nobody : group.callers = [])
    {client : Client} (sends : group.world.Sends key (client.peer .online))
    (sent : Transport.target (client.url name key) = .ok url)
    (received : cluster.recipient url.authority = .host host)
    (redirects : Client.redirect? url (host.deliver url) = some location)
    (permitted : Transport.permit (client.url name key) location = .ok next)
    (reaches : cluster.recipient next.authority = .node home)
    (looks : cluster.asked? home next =
      some (.lookup place asks fun result => (Response.ofResult true result).anyOrigin))
    (apart : home ≠ index) (homeFound : cluster.group? home place = some homeGroup)
    (homeRests : (GroupState.promises name function).Rests homeGroup)
    (homeNobody : homeGroup.callers = []) (homeLocal : homeGroup.world.IsLocal asks)
    (named : asks ≠ "") (computed : function asks = .ok octets) (count hops : Nat) :
    (lookups (hops + 3) cluster index number key (count + 1)).2.2 =
      List.replicate (count + 1) (.ok octets) := by
  have alike := (settled.leaves_start index number key (count + 1)).1.alike
  have homeSame : (cluster.start index number key (count + 1)).1.group? home place =
      some homeGroup := by
    rw [group?_start_other fun same => apart same.1, homeFound]
  have looked := lookups_local homeSame homeRests homeNobody homeLocal 1 hops
  have fetched := fetch_sent_on (hops + 1) sent ((alike.recipients _).trans received) redirects
    permitted ((alike.recipients _).trans reaches) (alike.symm.looks looks)
  rw [looked, Source.answer_of_ok named computed] at fetched
  refine lookups_given found rests nobody sends fetched ?_
  rw [group?_start_other fun same => apart same.1.symm, group?_started found]

/-- A node asks a host for a key, and the host sends it on to another node for another key. All
sources give the key itself, and still the lookup returns the other key. -/
theorem location_leads_to_another_value :
    let function (key : String) : Except String Octets := .ok (Utf8.encode key)
    let groups : List (String × Nat × Source) := [("scores", 0, .ofFunction function)]
    let setups : List Setup :=
      [⟨"http://a:1", some "a:1", ["http://c:3"], 1, groups⟩, ⟨"http://b:2", some "b:2", [], 1, groups⟩]
    let hosts := [("c:3", Host.fixed 302 [] false (some "http://b:2/_cache/scores/Jack"))]
    (∀ setup ∈ setups, ∀ entry ∈ setup.groups, entry.2.2 = .ofFunction function) ∧
    (∀ setup ∈ setups, ∀ address ∈ Pool.addresses setup.peers, Url.isOrigin address) ∧
    (∀ host ∈ hosts, host.2.refuses) ∧
    ∃ reading ∈ ((build setups hosts).inquire [⟨0, "scores", "Tom", 1⟩]).2,
      reading.query.key = "Tom" ∧ reading.results = [.ok (Utf8.encode "Jack")] := by
  intro function groups setups hosts
  have plain : ∀ setup ∈ setups, ∀ address ∈ Pool.addresses setup.peers, Url.isOrigin address := by
    decide
  refine ⟨by simp [setups, groups], plain, by decide, ?_⟩
  obtain ⟨group, found, rests, nobody, absent, picks⟩ : ∃ group,
      (build setups hosts).group? 0 0 = some group ∧
        (GroupState.promises "scores" function).Rests group ∧ group.callers = [] ∧
        ¬ group.world.cache.contains "Tom" ∧
        group.world.owner? "Tom" = some ((PeerPath.clientOf "http://c:3").peer .online) :=
    ⟨_, rfl, Setup.rests_group (plain _ List.mem_cons_self) rfl rfl, rfl, by decide,
      (Setup.picker_of_alone rfl (by decide) "Tom").trans (if_neg (by decide))⟩
  obtain ⟨homeGroup, homeFound, homeRests, homeNobody, unowned⟩ : ∃ group,
      (build setups hosts).group? 1 0 = some group ∧
        (GroupState.promises "scores" function).Rests group ∧ group.callers = [] ∧
        group.world.owner? "Jack" = none :=
    ⟨_, rfl, Setup.rests_group (plain _ (.tail _ List.mem_cons_self)) rfl rfl, rfl,
      Setup.picker_of_nobody rfl "Jack"⟩
  have sent : Transport.target ((PeerPath.clientOf "http://c:3").url "scores" "Tom") =
      .ok { scheme := "http", host := some "c", port := some 3, path := "/_cache/scores/Tom" } := by
    refine PeerPath.target_of_parse? (by decide +kernel) (by decide +kernel) rfl rfl ?_
    rw [PeerPath.isSendable_eq]
    decide +kernel
  have sendable : Url.isSendable
      { scheme := "http", host := some "b", port := some 2, path := "/_cache/scores/Jack" } := by
    rw [PeerPath.isSendable_eq]
    decide +kernel
  have joined : Url.join?
      { scheme := "http", host := some "c", port := some 3, path := "/_cache/scores/Tom" }
      "http://b:2/_cache/scores/Jack" = some
        { scheme := "http", host := some "b", port := some 2, path := "/_cache/scores/Jack" } := by
    decide +kernel
  have redirects := redirect?_of_location (by decide : Client.isRedirect 302) joined sendable [] false
  have permitted (raw : String) : Transport.permit raw _ = .ok _ :=
    Transport.permit_eq_ok_iff.mpr ⟨rfl, rfl, rfl, sendable⟩
  have received : (build setups hosts).recipient "c:3" =
      .host (.fixed 302 [] false (some "http://b:2/_cache/scores/Jack")) := by rfl
  have reaches : (build setups hosts).recipient "b:2" = .node 1 := by rfl
  have isPath : "/_cache/scores/Jack" = PeerPath.asked "scores" "Jack" := by decide +kernel
  have looks : (build setups hosts).asked? 1
      { scheme := "http", host := some "b", port := some 2, path := "/_cache/scores/Jack" } =
        some (.lookup 0 "Jack" fun result => (Response.ofResult true result).anyOrigin) :=
    asked?_of_stands rfl (Setup.basePath_node _) (by decide) rfl isPath
  have sends := sends_of_target rests (by decide) absent picks sent
  have returns := lookups_sent_on (settled_build _ _) found rests nobody sends sent received
    redirects (permitted _) reaches looks (by decide) homeFound homeRests homeNobody
    (GroupState.isLocal_of_unowned unowned) (by decide) rfl 0 7
  exact ⟨_, mem_inquire rfl _, rfl, returns⟩

end RingCache.Cluster
