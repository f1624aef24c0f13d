import RingCache.Proofs.Cluster.Journeys
import RingCache.Proofs.Cluster.Computations
import RingCache.Proofs.Group.Replies

/-!
# What requests leave alone

A lookup of a key is an event of one group, and may send a request on the network, which comes to
another group, or to none. Whatever the network makes of it, nothing else changes
(`Cluster.Settled.leaves_lookups`): each group is as it was unless it is the one of the lookup, or a
request that was seen leads to it (`Cluster.Leads`). Between nodes with the default base path, whose
peers are plain origins, only groups change to which the one name leads (`Cluster.Plain.others`).

A lookup and a fetch call each other. So what they leave alone is shown of both at once, along the
rules of their journey.
-/

namespace RingCache

open Http

/-! ## Where a request leads -/

namespace Node

variable {node other : Node} {time : String} {request : Request} {number : Nat} {key : String}
  {answer : Result → Response}

/-- A lookup that a part of a node decides on follows from the base path and the names. -/
theorem decideRoute_congr (base : node.basePath = other.basePath)
    (names : ∀ name, node.registry.number? name = other.registry.number? name) {route : Route}
    (looks : node.decideRoute time request route = .lookup number key answer) :
    other.decideRoute time request route = .lookup number key answer := by
  have looksUp (isSealed : Bool) (group key : String) :
      node.look isSealed group key = other.look isSealed group key := by
    rw [look, look, names]
  cases route with
  | value group key => simpa only [decideRoute, decideValue, looksUp] using looks
  | exchange => simpa only [decideRoute, decideExchange, looksUp, base] using looks
  | stats => cases looks
  | health => cases looks
  | peers =>
      rw [decideRoute, decidePeers] at looks
      repeat' split at looks
      all_goals cases looks

/-- So does a lookup that a node decides on. -/
theorem decide_congr (base : node.basePath = other.basePath)
    (names : ∀ name, node.registry.number? name = other.registry.number? name)
    (looks : node.decide time request = .lookup number key answer) :
    other.decide time request = .lookup number key answer := by
  rw [decide] at looks ⊢
  dsimp only at looks ⊢
  generalize Route.ofPath request.path = route at looks ⊢
  by_cases asks : request.method = "OPTIONS"
  · rw [if_pos asks] at looks
    cases looks
  · by_cases taken : route.takes request.method
    · rw [if_neg asks, if_neg (by simp [taken])] at looks ⊢
      cases decided : node.decideRoute time request route with
      | respond response =>
          rw [decided] at looks
          split at looks <;> cases looks
      | replacePeers peers =>
          rw [decided] at looks
          split at looks <;> cases looks
      | lookup ownNumber ownKey ownAnswer =>
          rwa [decideRoute_congr base names decided, ← decided]
    · rw [if_neg asks, if_pos (by simp [taken])] at looks
      cases looks

end Node

namespace Cluster

variable {cluster next last : Cluster} {index number : Nat} {url : Url} {group key : String}
  {sights later : List Sight}

/-- A request for a URL comes to a node and is a lookup in its group with a number. -/
def Leads (cluster : Cluster) (url : Url) (index number : Nat) : Prop :=
  cluster.recipient url.authority = .node index ∧
    ∃ key answer, cluster.asked? index url = some (.lookup number key answer)

/-- What a node looks up for a request, it looked up before. -/
theorem Alike.looks (alike : Alike cluster next) {answer : Result → Response}
    (looks : next.asked? index url = some (.lookup number key answer)) :
    cluster.asked? index url = some (.lookup number key answer) := by
  obtain ⟨node, present, decided⟩ := Option.map_eq_some_iff.mp looks
  obtain ⟨before, wasPresent, base, names⟩ := alike.exists_node present
  rw [asked?, wasPresent, Option.map_some, Node.decide_congr base names decided]

/-- A request leads to where it led before. -/
theorem Alike.leads (alike : Alike cluster next) (leads : next.Leads url index number) :
    cluster.Leads url index number := by
  obtain ⟨received, key, answer, asked⟩ := leads
  exact ⟨(alike.recipients url.authority).symm.trans received, key, answer, alike.looks asked⟩

/-! ## Between two requests -/

/-- Whether every group of a cluster is between two events. -/
def Settled (cluster : Cluster) : Prop :=
  ∀ index number group, cluster.group? index number = some group → group.Settled

theorem settled_build (setups : List Setup) (hosts : List (String × Host)) :
    (build setups hosts).Settled := by
  intro index number group found
  obtain ⟨setup, _, entry, _, rfl⟩ := exists_entry_build found
  exact (Group.settled_create entry.1 entry.2.1 entry.2.2).equip (some setup.pool.picker)

/-- Whatever happens to a group, the cluster is between two events again. -/
theorem Settled.step (settled : cluster.Settled) (index number : Nat) (event : Group.Event) :
    (cluster.step index number event).1.Settled := by
  intro otherIndex otherNumber after found
  obtain ⟨before, present, rfl | ⟨_, _, rfl⟩⟩ := exists_group_of_step found
  · exact settled otherIndex otherNumber after present
  · exact (settled otherIndex otherNumber before present).step event

/-- What lookups leave of a cluster: it is alike, it is between two events, and no group has changed
but these, and those to which a request led that was seen. -/
structure Leaves (changed : Nat → Nat → Prop) (cluster next : Cluster) (sights : List Sight) :
    Prop where
  settled : next.Settled
  alike : Alike cluster next
  others : ∀ index number, ¬ changed index number →
    (∀ url, .request url ∈ sights → ¬ cluster.Leads url index number) →
    next.group? index number = cluster.group? index number

variable {changed : Nat → Nat → Prop}

/-- Whatever is seen, a cluster that does not change is left so. -/
theorem Settled.leaves (settled : cluster.Settled) : Leaves changed cluster cluster sights where
  settled := settled
  alike := .refl cluster
  others _ _ _ _ := rfl

theorem Leaves.trans (first : Leaves changed cluster next sights)
    (second : Leaves changed next last later) : Leaves changed cluster last (sights ++ later) where
  settled := second.settled
  alike := first.alike.trans second.alike
  others index number spared unled := by
    rw [second.others index number spared fun url listed leads =>
        unled url (List.mem_append_right _ listed) (first.alike.leads leads),
      first.others index number spared fun url listed =>
        unled url (List.mem_append_left _ listed)]

/-- What a request leads to may change if the request was seen. -/
theorem Leaves.sent (leaves : Leaves (fun other otherNumber => other = index ∧
      otherNumber = number) cluster next later) (listed : .request url ∈ sights)
    (leads : cluster.Leads url index number) : Leaves changed cluster next (sights ++ later) where
  settled := leaves.settled
  alike := leaves.alike
  others other otherNumber _ unled := by
    refine leaves.others other otherNumber ?_ fun url listed =>
      unled url (List.mem_append_right _ listed)
    rintro ⟨rfl, rfl⟩
    exact unled url (List.mem_append_left _ listed) leads

/-- Whether only results are seen that lookups of a key may return. -/
def Returning (key : String) (notices : List (Notice Call Result)) : Prop :=
  ∀ id other result, .ended id other (.returned result) ∈ notices → Group.Returns key result

theorem Returning.append {first second : List (Notice Call Result)} (returns : Returning key first)
    (returnsToo : Returning key second) : Returning key (first ++ second) := by
  intro id other result ended
  rcases List.mem_append.mp ended with early | late
  · exact returns id other result early
  · exact returnsToo id other result late

theorem Returning.inOrder {notices : List (Notice Call Result)} (returns : Returning key notices) :
    ∀ result ∈ inOrder (resultsOf notices), Group.Returns key result := by
  intro result mem
  obtain ⟨id, other, ended⟩ := exists_ended_of_mem mem
  exact returns id other result ended

/-- An event of lookups changes one group, in which only lookups of the key return. -/
theorem Settled.leaves_step (settled : cluster.Settled) (index number : Nat) {event : Group.Event}
    (asks : Group.Asks key (fun _ => True) event) :
    Leaves (fun other otherNumber => other = index ∧ otherNumber = number) cluster
        (cluster.step index number event).1 [] ∧
      Returning key (cluster.step index number event).2 := by
  refine ⟨⟨settled.step index number event, alike_step fun group found => ?_,
    fun other otherNumber spared _ => group?_step_other spared⟩, fun id other result ended => ?_⟩
  · exact ((settled index number group found).returns_step asks).1
  · obtain ⟨group, found, seen⟩ := exists_group_of_notice ended
    exact (((settled index number group found).returns_step asks).2 id other result seen).2

/-- So do lookups that start. -/
theorem Settled.leaves_start (settled : cluster.Settled) (index number : Nat) (key : String)
    (count : Nat) :
    Leaves (fun other otherNumber => other = index ∧ otherNumber = number) cluster
        (cluster.start index number key count).1 [] ∧
      Returning key (cluster.start index number key count).2 := by
  induction count generalizing cluster with
  | zero => exact ⟨settled.leaves, nofun⟩
  | succ count inductionHypothesis =>
      obtain ⟨leaves, first⟩ := settled.leaves_step index number
        (.lookup : Group.Asks key _ (.lookup key))
      obtain ⟨leavesOthers, others⟩ := inductionHypothesis leaves.settled
      exact ⟨leaves.trans leavesOthers, first.append others⟩

/-! ## Lookups and fetches -/

/-- Calls of the source are no requests. -/
theorem Leaves.loads (leaves : Leaves changed cluster next []) (index : Nat) (name : String)
    (notices : List (Notice Call Result)) :
    Leaves changed cluster next (loadsOf index name notices) where
  settled := leaves.settled
  alike := leaves.alike
  others other otherNumber spared _ := leaves.others other otherNumber spared nofun

mutual

/-- Lookups change their group and those that requests lead to, and only lookups of the key return
in the group. -/
theorem LookedUp.leaves {cluster next : Cluster} {index number : Nat} {key : String}
    {sights : List Sight} {notices : List (Notice Call Result)}
    (looked : LookedUp cluster index number key next sights notices) (settled : cluster.Settled) :
    Leaves (fun other otherNumber => other = index ∧ otherNumber = number) cluster next sights ∧
      Returning key notices :=
  match looked with
  | .idle => ⟨settled.leaves, nofun⟩
  | .started count => by
      obtain ⟨leaves, returns⟩ := settled.leaves_start index number key count
      exact ⟨leaves.loads _ _ _, returns⟩
  | .givenUp looked _ fetched => by
      obtain ⟨leaves, returns⟩ := looked.leaves settled
      exact ⟨leaves.trans (fetched.leaves leaves.settled), returns⟩
  | .finished result looked _ fetched => by
      obtain ⟨leaves, returns⟩ := looked.leaves settled
      have fetches := leaves.trans (fetched.leaves leaves.settled)
      obtain ⟨finished, late⟩ := fetches.settled.leaves_step index number
        (.finish (outcomeOf result) trivial : Group.Asks key _ _)
      exact ⟨fetches.trans (finished.loads _ _ _), returns.append late⟩
termination_by structural looked

/-- A fetch changes groups that requests lead to, whatever else may change. -/
theorem Retrieved.leaves {cluster next : Cluster} {client : Client} {group key : String}
    {sights : List Sight} {given : Option Result} {changed : Nat → Nat → Prop}
    (fetched : Retrieved cluster client group key next sights given) (settled : cluster.Settled) :
    Leaves changed cluster next sights :=
  match fetched with
  | .idle => settled.leaves
  | .unsent _ => settled.leaves
  | .settled _ _ => settled.leaves
  | .responded _ _ _ => settled.leaves
  | .lost _ _ => settled.leaves
  | .answered _ lands asked looked _ =>
      have ⟨received, listed⟩ := recipient_of_send lands
      (looked.leaves settled).1.sent listed ⟨received, _, _, asked⟩
  | .unanswered _ lands asked looked =>
      have ⟨received, listed⟩ := recipient_of_send lands
      (looked.leaves settled).1.sent listed ⟨received, _, _, asked⟩
termination_by structural fetched

end

/-- Lookups of a key change their group, and those that requests led to. -/
theorem Settled.leaves_lookups (settled : cluster.Settled) (hops index number : Nat) (key : String)
    (count : Nat) :
    let looked := lookups hops cluster index number key count
    Leaves (fun other otherNumber => other = index ∧ otherNumber = number) cluster looked.1
        looked.2.1 ∧
      ∀ result ∈ looked.2.2, Group.Returns key result := by
  obtain ⟨notices, looked, listed⟩ := lookedUp_lookups hops cluster index number key count
  obtain ⟨leaves, returns⟩ := looked.leaves settled
  exact ⟨leaves, fun result mem => returns.inOrder result (listed result mem)⟩

/-! ## Where the requests of plain peers lead -/

/-- What lookups keep between such nodes: the cluster stays plain, and every
request is one for this group and key. -/
structure Requests (group key : String) (cluster next : Cluster) (sights : List Sight) : Prop where
  plain : next.Plain
  alike : Alike cluster next
  paths : ∀ url, .request url ∈ sights → url.path = PeerPath.asked group key

theorem Plain.refl (plain : cluster.Plain) : Requests group key cluster cluster [] where
  plain := plain
  alike := .refl cluster
  paths := nofun

theorem Requests.trans (first : Requests group key cluster next sights)
    (second : Requests group key next last later) :
    Requests group key cluster last (sights ++ later) where
  plain := second.plain
  alike := first.alike.trans second.alike
  paths url listed := by
    rcases List.mem_append.mp listed with early | late
    · exact first.paths url early
    · exact second.paths url late

/-- A request of a client is one for its group and key. -/
theorem Plain.requests_sent (plain : cluster.Plain) {origin : String}
    (isOrigin : Url.isOrigin origin)
    (sent : Transport.target ((PeerPath.clientOf origin).url group key) = .ok url) :
    Requests group key cluster cluster [.request url] where
  plain := plain
  alike := .refl cluster
  paths other listed := by
    rw [Sight.request.inj (List.mem_singleton.mp listed)]
    exact PeerPath.path_of_target isOrigin sent

theorem Requests.loads (requests : Requests group key cluster next []) (index : Nat) (name : String)
    (notices : List (Notice Call Result)) :
    Requests group key cluster next (loadsOf index name notices) where
  plain := requests.plain
  alike := requests.alike
  paths url listed := by
    obtain ⟨id, asked, _, isLoad⟩ := mem_loadsOf.mp listed
    cases isLoad

theorem Plain.requests_step (plain : cluster.Plain) (group : String) (index number : Nat)
    {event : Group.Event} (asks : Group.Asks key (fun _ => True) event) :
    Requests group key cluster (cluster.step index number event).1 [] := by
  obtain ⟨plainNext, alike, _⟩ := plain.step index number asks
  exact ⟨plainNext, alike, nofun⟩

theorem Plain.requests_start (plain : cluster.Plain) (group : String) (index number : Nat)
    (key : String) (count : Nat) :
    Requests group key cluster (cluster.start index number key count).1 [] := by
  induction count generalizing cluster with
  | zero => exact plain.refl
  | succ count inductionHypothesis =>
      have first := plain.requests_step group index number
        (.lookup : Group.Asks key _ (.lookup key))
      exact first.trans (inductionHypothesis first.plain)

mutual

/-- Lookups between such nodes request the key of their group. -/
theorem LookedUp.requests {cluster next : Cluster} {index number : Nat} {key : String}
    {sights : List Sight} {notices : List (Notice Call Result)}
    (looked : LookedUp cluster index number key next sights notices) (plain : cluster.Plain) :
    Requests (cluster.groupName index number) key cluster next sights :=
  match looked with
  | .idle => plain.refl
  | .started count =>
      (plain.requests_start (cluster.groupName index number) index number key count).loads _ _ _
  | .givenUp looked awaits fetched => by
      have requests := looked.requests plain
      obtain ⟨isGroup, _, _, isOrigin, isClient⟩ :=
        requests.plain.awaited_of_alike requests.alike awaits
      have fetches := fetched.requests requests.plain isOrigin isClient
      exact requests.trans (isGroup ▸ fetches)
  | .finished result looked awaits fetched => by
      have requests := looked.requests plain
      obtain ⟨isGroup, _, _, isOrigin, isClient⟩ :=
        requests.plain.awaited_of_alike requests.alike awaits
      have fetches := fetched.requests requests.plain isOrigin isClient
      have finished := fetches.plain.requests_step (cluster.groupName index number) index number
        (.finish (outcomeOf result) trivial : Group.Asks key _ _)
      exact (requests.trans (isGroup ▸ fetches)).trans (finished.loads _ _ _)
termination_by structural looked

/-- So does a fetch from a plain origin. -/
theorem Retrieved.requests {cluster next : Cluster} {client : Client} {group key : String}
    {sights : List Sight} {given : Option Result}
    (fetched : Retrieved cluster client group key next sights given) (plain : cluster.Plain)
    {origin : String} (isOrigin : Url.isOrigin origin) (isClient : client = PeerPath.clientOf origin) :
    Requests group key cluster next sights :=
  match fetched with
  | .idle => plain.refl
  | .unsent _ => plain.refl
  | .settled sent lands | .responded sent lands _ | .lost sent lands => by
      obtain rfl := plain.direct.sights_of_send lands
      exact plain.requests_sent isOrigin (isClient ▸ sent)
  | .answered sent lands asked looked _ | .unanswered sent lands asked looked => by
      subst isClient
      obtain rfl := plain.direct.sights_of_send lands
      obtain rfl := plain.direct.eq_of_send lands
      obtain ⟨rfl, rfl, _⟩ := plain.asked_lookup isOrigin sent asked
      exact (plain.requests_sent isOrigin sent).trans (looked.requests plain)
termination_by structural fetched

end

/-- A request for the path of a group and a key leads to the group of this name. -/
theorem Plain.number?_of_leads (plain : cluster.Plain)
    (isPath : url.path = PeerPath.asked group key)
    (leads : cluster.Leads url index number) :
    ∃ node, cluster.node? index = some node ∧ node.registry.number? group = some number := by
  obtain ⟨_, asked, answer, isAsked⟩ := leads
  obtain ⟨node, present, decided⟩ := Option.map_eq_some_iff.mp isAsked
  have base := plain.based index node present
  refine ⟨node, present, ?_⟩
  rw [isPath] at decided
  by_cases stand : PeerPath.Stands group ∧ PeerPath.Stands key
  · rw [Node.decide_of_stands base "" stand.1 stand.2, Node.look] at decided
    cases named : node.registry.number? group with
    | none =>
        rw [named] at decided
        cases decided
    | some found =>
        rw [named] at decided
        rw [(Decision.lookup.inj decided).1]
  · obtain ⟨response, responds, _⟩ := Node.decide_of_falls base "" stand
    rw [responds] at decided
    cases decided

/-- Between such nodes, lookups change groups only that the name of their group leads to. -/
theorem Plain.others (plain : cluster.Plain) (settled : cluster.Settled) (hops : Nat)
    {index number : Nat} (key : String) (count : Nat) {other otherNumber : Nat}
    (spared : ¬ (other = index ∧ otherNumber = number))
    (unnamed : ∀ node, cluster.node? other = some node →
      node.registry.number? (cluster.groupName index number) ≠ some otherNumber) :
    (lookups hops cluster index number key count).1.group? other otherNumber =
      cluster.group? other otherNumber := by
  obtain ⟨notices, looked, _⟩ := lookedUp_lookups hops cluster index number key count
  have requests := looked.requests plain
  refine (settled.leaves_lookups hops index number key count).1.others other otherNumber spared ?_
  intro url listed leads
  obtain ⟨node, present, named⟩ := plain.number?_of_leads (requests.paths url listed) leads
  exact unnamed node present named

end Cluster

end RingCache
