import RingCache.Proofs.Cluster.Journeys
import RingCache.Proofs.Cluster.Nodes
import RingCache.Proofs.Cluster.Redirects
import RingCache.Proofs.Cluster.Sights

/-!
# Clusters that compute a function

If the nodes of a cluster compute one function in their groups of a name
(`Cluster.Computes`), lookups there keep it so, and return what the function says
(`LookedUp.computes`): what a node gives to another is a value of the function or a
failure, and after a failure the node that asked computes the value itself.

A lookup and a fetch call each other. So what they keep is proved for both at once, along
the rules of their journey (`Cluster.LookedUp`).
-/

namespace RingCache

open Http

/-! ## Hosts -/

/-- Whether a host gives nothing that a client takes for an envelope: it ends every
connection, or its status is no success. Where it may still send clients is another
matter (`Host.stays`). -/
def Host.refuses : Host → Bool
  | .echo => false
  | .down => true
  | .fixed status _ _ _ => !Client.isSuccess status

namespace Cluster

/-! ## Plain clusters -/

/-- Whether all nodes have the default base path and ask plain peers, every name leads to a
group of this name, and no host sends clients on. -/
structure Plain (cluster : Cluster) : Prop where
  direct : cluster.Direct
  based : ∀ index node, cluster.node? index = some node → node.basePath = Address.defaultBasePath
  indexed : ∀ index node, cluster.node? index = some node → ∀ name number,
    node.registry.number? name = some number →
      ∃ group, cluster.group? index number = some group ∧ group.name = name
  routes : ∀ index number group, cluster.group? index number = some group →
    (GroupState.routing group.world.nature).Rests group

section Plain

variable {key group : String} {cluster : Cluster} {index number : Nat} {event : Group.Event}

/-- An event of lookups keeps this, and calls the source for no other key. -/
theorem Plain.step (plain : cluster.Plain) (index number : Nat)
    (asks : Group.Asks key (fun _ => True) event) :
    let stepped := cluster.step index number event
    stepped.1.Plain ∧ Alike cluster stepped.1 ∧
      ∀ id asked, .called id (.load asked) ∈ stepped.2 → asked = key := by
  intro stepped
  have routed : ∀ group, cluster.group? index number = some group →
      (GroupState.routing group.world.nature).Rests (group.step event).1 ∧
        ∀ notice ∈ (group.step event).2,
          (GroupState.routing group.world.nature).Allows key notice := fun group found =>
    (plain.routes index number group found).group_step asks
  have alike : Alike cluster stepped.1 :=
    alike_step fun group found => (routed group found).1.world.1
  refine ⟨⟨?_, ?_, ?_, ?_⟩, alike, ?_⟩
  · rw [Direct, alike.hosts]
    exact plain.direct
  · intro otherIndex after found
    obtain ⟨before, present, sameBase, _⟩ := alike.exists_node found
    exact sameBase.trans (plain.based otherIndex before present)
  · intro otherIndex after found other otherNumber leads
    obtain ⟨before, present, _, sameNumber⟩ := alike.exists_node found
    obtain ⟨group, listed, isName⟩ :=
      plain.indexed otherIndex before present other otherNumber (sameNumber other ▸ leads)
    obtain ⟨later, listedLater, same⟩ := alike.symm.exists_group listed
    exact ⟨later, listedLater, (GroupState.name_of_nature same).symm.trans isName⟩
  · intro otherIndex otherNumber after found
    obtain ⟨before, present, rfl | ⟨rfl, rfl, rfl⟩⟩ := exists_group_of_step found
    · exact plain.routes otherIndex otherNumber after present
    · have rests := (routed before present).1
      have sameNature : (before.step event).1.world.nature = before.world.nature := rests.world.1
      rwa [← sameNature] at rests
  · intro id asked called
    obtain ⟨group, found, seen⟩ := exists_group_of_notice called
    exact (routed group found).2 _ seen asked rfl

/-- The peer for which a pass waits is found in its group. -/
theorem awaited?_eq (cluster : Cluster) (index number : Nat) (key : String) :
    cluster.awaited? index number key = (cluster.group? index number).bind fun group =>
      match group.stage? key with
      | some (.fetching peer) => some (⟨peer.address⟩, group.name)
      | _ => none := by
  rw [awaited?, group?]
  cases cluster.node? index <;> rfl

/-- A pass that waits for a peer waits for a plain origin, and its key is not empty. -/
theorem Plain.awaited (plain : cluster.Plain) {client : Client}
    (awaits : cluster.awaited? index number key = some (client, group)) :
    group = cluster.groupName index number ∧ key ≠ "" ∧
      ∃ origin, Url.isOrigin origin ∧ client = PeerPath.clientOf origin := by
  rw [awaited?_eq] at awaits
  obtain ⟨found, present, stands⟩ := Option.bind_eq_some_iff.mp awaits
  split at stands
  · rename_i peer atStage
    obtain ⟨rfl, rfl⟩ := Prod.mk.inj (Option.some.inj stands)
    have rests := plain.routes index number found present
    obtain ⟨leader, leading, rfl, ticket, phase⟩ := (Group.stage?_eq_some rests.sound).mp atStage
    obtain ⟨origin, isOrigin, rfl⟩ := rests.leads leader leading ticket _ phase peer rfl
    exact ⟨(groupName_of_group? present).symm, rests.admitted leader leading, origin, isOrigin, rfl⟩
  · cases stands

/-- If the cluster is alike, this is the group that it was in. -/
theorem Plain.awaited_of_alike {next : Cluster} (plain : next.Plain) (alike : Alike cluster next)
    {client : Client} (awaits : next.awaited? index number key = some (client, group)) :
    group = cluster.groupName index number ∧ key ≠ "" ∧
      ∃ origin, Url.isOrigin origin ∧ client = PeerPath.clientOf origin := by
  rw [← alike.groupName index number]
  exact plain.awaited awaits

/-- A node that is asked for a key of a group looks it up there, or gives a client
nothing. -/
theorem Plain.asked (plain : cluster.Plain) {origin : String} (isOrigin : Url.isOrigin origin)
    {url : Url} (sent : Transport.target ((PeerPath.clientOf origin).url group key) = .ok url)
    {decision : Decision} (asked : cluster.asked? index url = some decision) :
    (∃ response, decision = .respond response ∧ response.Refused) ∨
      ∃ number, cluster.groupName index number = group ∧
        decision = .lookup number key fun result => (Response.ofResult true result).anyOrigin := by
  obtain ⟨node, present, rfl⟩ := Option.map_eq_some_iff.mp asked
  have base := plain.based index node present
  rw [PeerPath.path_of_target isOrigin sent]
  by_cases stand : PeerPath.Stands group ∧ PeerPath.Stands key
  · rw [Node.decide_of_stands base "" stand.1 stand.2, Node.look]
    cases leads : node.registry.number? group with
    | none => exact .inl ⟨_, rfl, Response.refused_failure _⟩
    | some number =>
        obtain ⟨found, listed, isName⟩ := plain.indexed index node present group number leads
        exact .inr ⟨number, (groupName_of_group? listed).trans isName, rfl⟩
  · exact .inl (Node.decide_of_falls base "" stand)

/-- So a lookup there is one in the group of this name, of this key and for a peer. -/
theorem Plain.asked_lookup (plain : cluster.Plain) {origin : String}
    (isOrigin : Url.isOrigin origin) {url : Url}
    (sent : Transport.target ((PeerPath.clientOf origin).url group key) = .ok url)
    {number : Nat} {asks : String} {answer : Result → Response}
    (asked : cluster.asked? index url = some (.lookup number asks answer)) :
    cluster.groupName index number = group ∧ asks = key ∧
      answer = fun result => (Response.ofResult true result).anyOrigin := by
  rcases plain.asked isOrigin sent asked with ⟨_, isRespond, _⟩ | ⟨_, isGroup, isLookup⟩
  · cases isRespond
  · obtain ⟨rfl, rfl, rfl⟩ := Decision.lookup.inj isLookup
    exact ⟨isGroup, rfl, rfl⟩

end Plain

/-! ## Clusters that compute a function -/

/-- Whether a plain cluster computes a function in its groups of a name, and all hosts refuse. -/
structure Computes (name : String) (function : String → Except String Octets)
    (cluster : Cluster) : Prop extends Plain cluster where
  refuse : ∀ host ∈ cluster.hosts, host.2.refuses
  computes : RestsAt (GroupState.promises name function)
    (fun index number => cluster.groupName index number = name) cluster

/-- Every group of the name computes the function. -/
theorem Computes.rests {name : String} {function : String → Except String Octets}
    {cluster : Cluster} (computes : cluster.Computes name function) {index number : Nat}
    {group : Group} (found : cluster.group? index number = some group) (isName : group.name = name) :
    (GroupState.promises name function).Rests group :=
  computes.computes index number group found ((groupName_of_group? found).trans isName)

/-- What lookups of a key in the groups of a name keep: the cluster goes on to compute the
function, and it stays the same but for what happens in these groups, whose sources are
called for this key only. -/
structure Moves (name : String) (function : String → Except String Octets) (group key : String)
    (cluster next : Cluster) (sights : List Sight) : Prop where
  computes : next.Computes name function
  alike : Alike cluster next
  others : ∀ index number, cluster.groupName index number ≠ group →
    next.group? index number = cluster.group? index number
  loads : ∀ index other asked, .load index other asked ∈ sights → other = group ∧ asked = key

variable {name group key : String} {function : String → Except String Octets}
  {cluster next : Cluster} {index number : Nat} {event : Group.Event} {sights : List Sight}

theorem Computes.refl (computes : cluster.Computes name function) :
    Moves name function group key cluster cluster [] where
  computes := computes
  alike := .refl cluster
  others _ _ _ := rfl
  loads := nofun

theorem Moves.trans {last : Cluster} {later : List Sight}
    (first : Moves name function group key cluster next sights)
    (second : Moves name function group key next last later) :
    Moves name function group key cluster last (sights ++ later) where
  computes := second.computes
  alike := first.alike.trans second.alike
  others index number differs := by
    have same := first.alike.groupName index number
    rw [second.others index number (same ▸ differs), first.others index number differs]
  loads index other asked listed := by
    rcases List.mem_append.mp listed with early | late
    · exact first.loads index other asked early
    · exact second.loads index other asked late

/-- A request is no call of a source. -/
theorem Moves.request (moves : Moves name function group key cluster next sights) (url : Url) :
    Moves name function group key cluster next (.request url :: sights) where
  computes := moves.computes
  alike := moves.alike
  others := moves.others
  loads index other asked listed := by
    rcases List.mem_cons.mp listed with isRequest | later
    · cases isRequest
    · exact moves.loads index other asked later

/-- One event keeps this, and whoever returns in it returns what a lookup is to return. -/
theorem Computes.step (computes : cluster.Computes name function) (index number : Nat)
    (asks : Group.Asks key (fun outcome =>
      cluster.groupName index number = name → GroupState.IsTrue function key outcome) event) :
    let stepped := cluster.step index number event
    let group := cluster.groupName index number
    Moves name function group key cluster stepped.1 (loadsOf index group stepped.2) ∧
      (group = name → ∀ id other result,
        .ended id other (.returned result) ∈ stepped.2 → result = Source.answer function key) := by
  intro stepped name'
  obtain ⟨plain, alike, own⟩ := computes.toPlain.step index number (asks.mono fun _ _ => trivial)
  obtain ⟨restsNext, allows⟩ := computes.computes.step index number
    fun isName => asks.mono fun _ accepted => accepted isName
  refine ⟨⟨⟨plain, ?_, ?_⟩, alike, ?_, ?_⟩, ?_⟩
  · rw [alike.hosts]
    exact computes.refuse
  · intro otherIndex otherNumber after found isName
    rw [alike.groupName] at isName
    exact restsNext otherIndex otherNumber after found isName
  · intro otherIndex otherNumber differs
    refine group?_step_other ?_
    rintro ⟨rfl, rfl⟩
    exact differs rfl
  · intro otherIndex other asked listed
    obtain ⟨id, called, noticed, isLoad⟩ := mem_loadsOf.mp listed
    obtain ⟨_, rfl, rfl⟩ := Sight.load.inj isLoad
    exact ⟨rfl, own id asked noticed⟩
  · intro isName id other result ended
    obtain ⟨rfl, fits⟩ := allows isName _ ended
    exact fits

/-- Lookups that start keep this too. -/
theorem Computes.start (computes : cluster.Computes name function) (index number : Nat)
    (key : String) (count : Nat) :
    let started := cluster.start index number key count
    let group := cluster.groupName index number
    Moves name function group key cluster started.1 (loadsOf index group started.2) ∧
      (group = name → ∀ id other result,
        .ended id other (.returned result) ∈ started.2 → result = Source.answer function key) := by
  induction count generalizing cluster with
  | zero => exact ⟨computes.refl, nofun⟩
  | succ count inductionHypothesis =>
      obtain ⟨moves, first⟩ := computes.step index number
        (.lookup : Group.Asks key _ (.lookup key))
      obtain ⟨movesOthers, others⟩ := inductionHypothesis moves.computes
      have sameName := moves.alike.groupName index number
      rw [sameName] at movesOthers others
      refine ⟨?_, fun isName id other result ended => ?_⟩
      · rw [Cluster.start]
        dsimp only
        rw [loadsOf_append]
        exact moves.trans movesOthers
      · rcases List.mem_append.mp ended with early | late
        · exact first isName id other result early
        · exact others isName id other result late

/-- A client gets nothing from a host that refuses. -/
theorem receive_of_refuses {host : Host} (refuses : host.refuses) (raw : String) (url : Url) :
    ∃ cause, Client.receive raw url (host.deliver url) = .error cause := by
  cases host with
  | echo => cases refuses
  | down => exact ⟨_, rfl⟩
  | fixed status body cut location =>
      exact Client.receive_failed (by simpa [Host.refuses] using refuses) cut location

/-- Whoever is no node refuses. -/
theorem Computes.refuses (computes : cluster.Computes name function) {authority : String}
    {host : Host} (received : cluster.recipient authority = .host host) : host.refuses :=
  host_of_recipient Host.refuses computes.refuse rfl received

/-- So a request that ends at no node gives nothing. -/
theorem Computes.settled (computes : cluster.Computes name function) {raw : String} {times : Nat}
    {url : Url} {result : Result}
    (lands : cluster.send raw times url = (sights, .settled result)) :
    sights = [.request url] ∧ ∃ cause, result = .error cause := by
  rw [computes.direct.send_eq] at lands
  obtain ⟨rfl, isSettled⟩ := Prod.mk.inj lands
  split at isSettled
  · cases isSettled
  · rename_i host received
    rw [← Landing.settled.inj isSettled]
    exact ⟨rfl, receive_of_refuses (computes.refuses received) raw url⟩

/-! ## Lookups and fetches -/

/-- A value that a fetch gives is the value of the function. -/
def Honest (function : String → Except String Octets) (key : String) (result : Result) : Prop :=
  ∀ value, result = .ok value → function key = .ok value

theorem honest_of_error {result : Result} (failed : ∃ cause, result = .error cause) :
    Honest function key result := by
  obtain ⟨cause, rfl⟩ := failed
  nofun

/-- What a client gets from a node that has looked the key up is a value of the function
or a failure. -/
theorem honest_of_answer (named : key ≠ "") (raw : String) (url : Url) :
    Honest function key (Client.receive raw url
      (delivered (Response.ofResult true (Source.answer function key)).anyOrigin)) := by
  rw [Source.answer, if_neg named]
  cases computed : function key with
  | ok value =>
      intro other received
      rw [Except.mapError, Response.receive_value raw url value] at received
      exact computed.trans (congrArg _ (Except.ok.inj received))
  | error text => exact honest_of_error (Response.refused_failure _ raw url)

/-- What lookups keep and return when so many hops are left. -/
def LooksUp (name : String) (function : String → Except String Octets) (hops : Nat) : Prop :=
  ∀ (cluster : Cluster) (index number : Nat) (key : String) (count : Nat),
    cluster.Computes name function →
      let looked := lookups hops cluster index number key count
      Moves name function (cluster.groupName index number) key cluster looked.1 looked.2.1 ∧
        (cluster.groupName index number = name →
          ∀ result ∈ looked.2.2, result = Source.answer function key)

/-- What fetches from plain origins keep and give when so many hops are left. -/
def Fetches (name : String) (function : String → Except String Octets) (hops : Nat) : Prop :=
  ∀ (cluster : Cluster) (origin group key : String), cluster.Computes name function →
    Url.isOrigin origin → key ≠ "" →
      let fetched := fetch hops cluster (PeerPath.clientOf origin) group key
      Moves name function group key cluster fetched.1 fetched.2.1 ∧
        (group = name → ∀ result, fetched.2.2 = some result → Honest function key result)

mutual

/-- Lookups keep this, and whoever returns in them returns what a lookup is to return. -/
theorem LookedUp.computes {name : String} {function : String → Except String Octets}
    {cluster next : Cluster} {index number : Nat} {key : String} {sights : List Sight}
    {notices : List (Notice Call Result)}
    (looked : LookedUp cluster index number key next sights notices)
    (computes : cluster.Computes name function) :
    Moves name function (cluster.groupName index number) key cluster next sights ∧
      (cluster.groupName index number = name → ∀ id other result,
        .ended id other (.returned result) ∈ notices → result = Source.answer function key) :=
  match looked with
  | .idle => ⟨computes.refl, fun _ _ _ _ => nofun⟩
  | .started count => computes.start index number key count
  | .givenUp looked awaits fetched => by
      obtain ⟨started, early⟩ := looked.computes computes
      obtain ⟨isGroup, filled, _, plain, isClient⟩ :=
        started.computes.toPlain.awaited_of_alike started.alike awaits
      have fetches := (fetched.computes started.computes plain isClient filled).1
      exact ⟨started.trans (isGroup ▸ fetches), early⟩
  | .finished result looked awaits fetched => by
      obtain ⟨started, early⟩ := looked.computes computes
      obtain ⟨isGroup, filled, _, plain, isClient⟩ :=
        started.computes.toPlain.awaited_of_alike started.alike awaits
      obtain ⟨fetches, honest⟩ := fetched.computes started.computes plain isClient filled
      rw [isGroup] at fetches honest
      have before := started.trans fetches
      have sameName := before.alike.groupName index number
      obtain ⟨finished, late⟩ := fetches.computes.step index number (.finish (outcomeOf result)
        fun isName value succeeds => honest (sameName.symm.trans isName) result rfl value
          (Option.some.inj ((result?_outcomeOf result).symm.trans succeeds)))
      rw [sameName] at finished late
      refine ⟨before.trans finished, fun isName id other given ended => ?_⟩
      rcases List.mem_append.mp ended with first | last
      · exact early isName id other given first
      · exact late isName id other given last
termination_by structural looked

/-- A fetch from a plain origin keeps this too, and gives no other value. -/
theorem Retrieved.computes {name : String} {function : String → Except String Octets}
    {cluster next : Cluster} {client : Client} {group key : String} {sights : List Sight}
    {given : Option Result}
    (fetched : Retrieved cluster client group key next sights given)
    (computes : cluster.Computes name function) {origin : String} (plain : Url.isOrigin origin)
    (isClient : client = PeerPath.clientOf origin) (filled : key ≠ "") :
    Moves name function group key cluster next sights ∧
      (group = name → ∀ result, given = some result → Honest function key result) :=
  match fetched with
  | .idle => ⟨computes.refl, fun _ _ => nofun⟩
  | .unsent _ => by
      refine ⟨computes.refl, fun _ result isResult => ?_⟩
      rw [← Option.some.inj isResult]
      exact honest_of_error ⟨_, rfl⟩
  | .settled _ lands => by
      obtain ⟨rfl, failed⟩ := computes.settled lands
      refine ⟨computes.refl.request _, fun _ result isResult => ?_⟩
      rw [← Option.some.inj isResult]
      exact honest_of_error failed
  | .responded sent lands asked => by
      obtain rfl := computes.direct.sights_of_send lands
      obtain rfl := computes.direct.eq_of_send lands
      refine ⟨computes.refl.request _, fun _ result isResult => ?_⟩
      rw [isClient] at sent
      rw [← Option.some.inj isResult]
      rcases computes.toPlain.asked plain sent asked with ⟨_, isRespond, refused⟩ | ⟨_, _, isLookup⟩
      · rw [Decision.respond.inj isRespond]
        exact honest_of_error (refused _ _)
      · cases isLookup
  | .lost _ lands => by
      obtain rfl := computes.direct.sights_of_send lands
      obtain rfl := computes.direct.eq_of_send lands
      refine ⟨computes.refl.request _, fun _ result isResult => ?_⟩
      rw [← Option.some.inj isResult]
      exact honest_of_error ⟨_, rfl⟩
  | .answered sent lands asked looked listed => by
      obtain rfl := computes.direct.sights_of_send lands
      obtain rfl := computes.direct.eq_of_send lands
      rw [isClient] at sent
      obtain ⟨isGroup, rfl, rfl⟩ := computes.toPlain.asked_lookup plain sent asked
      obtain ⟨moves, returned⟩ := looked.computes computes
      rw [isGroup] at moves returned
      refine ⟨moves.request _, fun isName result isResult => ?_⟩
      obtain ⟨id, other, ended⟩ := exists_ended_of_mem listed
      rw [← Option.some.inj isResult, returned isName id other _ ended]
      exact honest_of_answer filled _ _
  | .unanswered sent lands asked looked => by
      obtain rfl := computes.direct.sights_of_send lands
      obtain rfl := computes.direct.eq_of_send lands
      rw [isClient] at sent
      obtain ⟨isGroup, rfl, _⟩ := computes.toPlain.asked_lookup plain sent asked
      have moves := (looked.computes computes).1
      rw [isGroup] at moves
      exact ⟨moves.request _, fun _ _ => nofun⟩
termination_by structural fetched

end

/-- Lookups and fetches keep all this, however many hops are left. -/
theorem looksUp_and_fetches (name : String) (function : String → Except String Octets)
    (hops : Nat) : LooksUp name function hops ∧ Fetches name function hops := by
  constructor
  · intro cluster index number key count computes
    obtain ⟨notices, looked, listed⟩ := lookedUp_lookups hops cluster index number key count
    obtain ⟨moves, returned⟩ := looked.computes computes
    refine ⟨moves, fun isName result mem => ?_⟩
    obtain ⟨id, other, ended⟩ := exists_ended_of_mem (listed result mem)
    exact returned isName id other result ended
  · intro cluster origin group key computes plain filled
    exact (retrieved_fetch hops cluster _ group key).computes computes plain rfl filled

end Cluster

end RingCache
