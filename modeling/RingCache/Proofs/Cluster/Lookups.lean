import RingCache.Proofs.Cluster.Computations
import RingCache.Proofs.Group.Locality

/-!
# Lookups where nobody waits

If nobody waits in a group that computes a function, lookups of one key that come
together either end where they are (`Cluster.lookups_local`) or wait for one fetch, and
end with it (`Cluster.lookups_sends`). In both cases there is a result for each of them,
and nobody waits in the group afterwards.
-/

namespace RingCache.Cluster

variable {cluster : Cluster} {name key : String} {function : String → Except String Octets}
  {index number count hops : Nat} {group : Group} {peer : Peer} {places : Nat → Nat → Prop}

/-- Lookups that start change the group that they are of, and no other one. -/
theorem group?_start (cluster : Cluster) (index number : Nat) (key : String) (count : Nat)
    (otherIndex otherNumber : Nat) :
    (cluster.start index number key count).1.group? otherIndex otherNumber =
      (cluster.group? otherIndex otherNumber).map fun group =>
        if otherIndex = index ∧ otherNumber = number then (group.run (Group.lookups key count)).1
        else group := by
  induction count generalizing cluster with
  | zero =>
      rw [start]
      cases cluster.group? otherIndex otherNumber with
      | none => rfl
      | some group =>
          rw [Option.map_some]
          split <;> rfl
  | succ count inductionHypothesis =>
      rw [start]
      dsimp only
      rw [inductionHypothesis, group?_step, Option.map_map]
      cases cluster.group? otherIndex otherNumber with
      | none => rfl
      | some group =>
          simp only [Option.map_some, Function.comp_apply]
          split
          · rfl
          · rfl

theorem group?_start_other {other otherNumber : Nat}
    (differs : ¬ (other = index ∧ otherNumber = number)) (key : String) (count : Nat) :
    (cluster.start index number key count).1.group? other otherNumber =
      cluster.group? other otherNumber := by
  rw [group?_start]
  simp only [if_neg differs, Option.map_id']

theorem notices_start (found : cluster.group? index number = some group) (key : String)
    (count : Nat) :
    (cluster.start index number key count).2 = (group.run (Group.lookups key count)).2 := by
  induction count generalizing cluster group with
  | zero => rfl
  | succ count inductionHypothesis =>
      have next : (cluster.step index number (.lookup key)).1.group? index number =
          some (group.step (.lookup key)).1 := by
        rw [group?_step, found, Option.map_some, if_pos ⟨rfl, rfl⟩]
      rw [start]
      dsimp only
      rw [inductionHypothesis next, notices_step, found]
      rfl

theorem group?_started (found : cluster.group? index number = some group) (key : String)
    (count : Nat) : (cluster.start index number key count).1.group? index number =
      some (group.run (Group.lookups key count)).1 := by
  rw [group?_start, found, Option.map_some, if_pos ⟨rfl, rfl⟩]

/-! ## Who is waited for -/

/-- Where nobody is, nobody is waited for. -/
theorem awaited?_of_nobody (found : cluster.group? index number = some group)
    (nobody : group.callers = []) (key : String) : cluster.awaited? index number key = none := by
  have noStage : group.stage? key = none := by
    rw [Group.stage?, Flight.leader?, nobody]
    rfl
  rw [awaited?_eq, found, Option.bind_some, noStage]

/-- Lookups that gather wait for the peer whom the first one asks. -/
theorem awaited?_of_gathers (found : cluster.group? index number = some group)
    {leader ticket waiting : Nat}
    (gathers : Flight.Gathers key () (.fetching peer) leader ticket waiting group) :
    cluster.awaited? index number key = some (⟨peer.address⟩, group.name) := by
  have atStage : group.stage? key = some (.fetching peer) := by
    rw [Group.stage?, gathers.leader?_eq]
    rfl
  rw [awaited?_eq, found, Option.bind_some, atStage]

/-! ## Lookups -/

/-- Results that are as many as the lookups, and all what a lookup is to return. -/
theorem inOrder_eq_replicate {notices : List (Notice Call Result)} {first : Nat} {result : Result}
    (numbered : (resultsOf notices).map Prod.fst = List.range' first count)
    (alike : ∀ id other value, .ended id other (.returned value) ∈ notices → value = result) :
    inOrder (resultsOf notices) = List.replicate count result := by
  refine List.eq_replicate_iff.mpr ⟨length_inOrder numbered, fun value mem => ?_⟩
  obtain ⟨id, other, ended⟩ := exists_ended_of_mem mem
  exact alike id other value ended

/-- So are those of a group that computes a function. -/
theorem inOrder_of_allows {notices : List (Notice Call Result)} {first : Nat}
    (numbered : (resultsOf notices).map Prod.fst = List.range' first count)
    (allows : ∀ notice ∈ notices, (GroupState.promises name function).Allows key notice) :
    inOrder (resultsOf notices) = List.replicate count (Source.answer function key) := by
  refine inOrder_eq_replicate numbered fun id other value ended => ?_
  obtain ⟨rfl, fits⟩ := allows _ ended
  exact fits

/-- Lookups wait for a peer whom they can send a request. -/
theorem sends_of_target (rests : (GroupState.promises name function).Rests group) (named : key ≠ "")
    (absent : ¬ group.world.cache.contains key) {client : Client}
    (picks : group.world.owner? key = some (client.peer .online)) {url : Url}
    (sent : Transport.target (client.url name key) = .ok url) :
    group.world.Sends key (client.peer .online) := by
  refine ⟨named, absent, picks, ?_⟩
  rw [rests.world.name]
  dsimp only [Client.peer]
  exact PeerPath.online_eq_held.mpr ⟨url, sent⟩

/-- Lookups that wait for no peer end where they are. -/
theorem lookups_local (found : cluster.group? index number = some group)
    (rests : (GroupState.promises name function).Rests group) (nobody : group.callers = [])
    (isLocal : group.world.IsLocal key) (count hops : Nat) :
    lookups (hops + 1) cluster index number key count =
      ((cluster.start index number key count).1,
        loadsOf index name (group.run (Group.lookups key count)).2,
        List.replicate count (Source.answer function key)) := by
  have named : cluster.groupName index number = name :=
    (groupName_of_group? found).trans rests.world.name
  obtain ⟨left, numbered⟩ := Group.run_local rests nobody isLocal count
  obtain ⟨_, allows⟩ := Group.run_allows rests key count
  rw [lookups, named]
  dsimp only
  rw [awaited?_of_nobody found nobody, awaited?_of_nobody (group?_started found key count) left]
  dsimp only
  rw [notices_start found, inOrder_of_allows numbered allows]

/-- Lookups that wait for a peer go on when the fetch has given a result. -/
theorem lookups_fetched (found : cluster.group? index number = some group)
    (rests : (GroupState.promises name function).Rests group) (nobody : group.callers = [])
    (sends : group.world.Sends key peer) {after : Cluster} {sights : List Sight} {result : Result}
    (fetched : fetch hops (cluster.start index number key (count + 1)).1 ⟨peer.address⟩ name key =
      (after, sights, some result)) :
    let finished := after.step index number (.finish key (outcomeOf result))
    lookups (hops + 1) cluster index number key (count + 1) =
      (finished.1, sights ++ loadsOf index name finished.2, inOrder (resultsOf finished.2)) := by
  intro finished
  have named : cluster.groupName index number = name :=
    (groupName_of_group? found).trans rests.world.name
  obtain ⟨gathers, noticed⟩ := Group.run_sends rests nobody sends count
  have namedNext : (group.run (Group.lookups key (count + 1))).1.name = name :=
    (Group.run_allows rests key (count + 1)).1.world.name
  have noResults : resultsOf (cluster.start index number key (count + 1)).2 = [] := by
    rw [notices_start found, noticed]
    rfl
  have noLoads : loadsOf index name (cluster.start index number key (count + 1)).2 = [] := by
    rw [notices_start found, noticed]
    rfl
  rw [lookups, named]
  dsimp only
  rw [awaited?_of_nobody found nobody,
    awaited?_of_gathers (group?_started found key (count + 1)) gathers, namedNext]
  dsimp only
  rw [fetched]
  dsimp only
  rw [noLoads, List.nil_append, resultsOf_append, noResults, List.nil_append]
  rfl

/-- If this is a failure, or the value of the function, they return what a lookup is to return. -/
theorem lookups_sends (found : cluster.group? index number = some group)
    (rests : (GroupState.promises name function).Rests group) (nobody : group.callers = [])
    (sends : group.world.Sends key peer) {after : Cluster} {sights : List Sight} {result : Result}
    (fetched : fetch hops (cluster.start index number key (count + 1)).1 ⟨peer.address⟩ name key =
      (after, sights, some result))
    (same : after.group? index number = some (group.run (Group.lookups key (count + 1))).1)
    (isTrue : GroupState.IsTrue function key (outcomeOf result)) :
    let finished := after.step index number (.finish key (outcomeOf result))
    lookups (hops + 1) cluster index number key (count + 1) =
        (finished.1, sights ++ loadsOf index name finished.2,
          List.replicate (count + 1) (Source.answer function key)) ∧
      ∀ last, finished.1.group? index number = some last → last.callers = [] := by
  intro finished
  obtain ⟨gathers, _⟩ := Group.run_sends rests nobody sends count
  have restsNext := (Group.run_allows rests key (count + 1)).1
  obtain ⟨left, numbered⟩ := Group.finish_gathers restsNext gathers isTrue (result?_outcomeOf result)
  obtain ⟨_, allows⟩ := restsNext.group_step
    (.finish (outcomeOf result) isTrue : Group.Asks key _ (.finish key (outcomeOf result)))
  have seen : finished.2 = ((group.run (Group.lookups key (count + 1))).1.step
      (.finish key (outcomeOf result))).2 := by
    rw [notices_step, same]
    rfl
  refine ⟨?_, fun last isLast => ?_⟩
  · rw [← seen] at numbered allows
    rw [lookups_fetched found rests nobody sends fetched, inOrder_of_allows numbered allows]
  · rw [group?_step, same, Option.map_some, if_pos ⟨rfl, rfl⟩] at isLast
    rw [← Option.some.inj isLast]
    exact left

/-- If this is a value, they return it, whatever value it is. -/
theorem lookups_given (found : cluster.group? index number = some group)
    (rests : (GroupState.promises name function).Rests group) (nobody : group.callers = [])
    (sends : group.world.Sends key peer) {after : Cluster} {sights : List Sight} {octets : Octets}
    (fetched : fetch hops (cluster.start index number key (count + 1)).1 ⟨peer.address⟩ name key =
      (after, sights, some (.ok octets)))
    (same : after.group? index number = some (group.run (Group.lookups key (count + 1))).1) :
    (lookups (hops + 1) cluster index number key (count + 1)).2.2 =
      List.replicate (count + 1) (.ok octets) := by
  obtain ⟨gathers, _⟩ := Group.run_sends rests nobody sends count
  have resumed : Group.loads.resume (group.run (Group.lookups key (count + 1))).1.world key ()
      (.fetching peer) (.value octets) = (_, [], .returned (.ok octets)) := rfl
  obtain ⟨_, noticed⟩ := gathers.step_finish resumed
  have seen : (after.step index number (.finish key (.value octets))).2 =
      (List.range' group.nextCaller (count + 1)).map fun id =>
        .ended id key (.returned (.ok octets)) := by
    rw [notices_step, same]
    exact noticed
  have numbered : (resultsOf (after.step index number (.finish key (.value octets))).2).map Prod.fst =
      List.range' group.nextCaller (count + 1) := by
    rw [seen, resultsOf_ended, List.map_map]
    exact List.map_id _
  rw [lookups_fetched found rests nobody sends fetched]
  refine inOrder_eq_replicate numbered fun id other value ended => ?_
  obtain ⟨_, _, isEnded⟩ := List.mem_map.mp (seen ▸ ended)
  cases isEnded
  rfl

/-- Lookups that wait for a host return what a lookup is to return: the host refuses, and the source
gives the value. -/
theorem lookups_refused (computes : cluster.Computes name function)
    (found : cluster.group? index number = some group) (isName : group.name = name)
    (nobody : group.callers = []) {origin : String}
    (sends : group.world.Sends key ((PeerPath.clientOf origin).peer .online)) {url : Url}
    (sent : Transport.target ((PeerPath.clientOf origin).url name key) = .ok url) {host : Host}
    (received : cluster.recipient url.authority = .host host) (count hops : Nat) :
    (lookups (hops + 2) cluster index number key (count + 1)).2.2 =
      List.replicate (count + 1) (Source.answer function key) := by
  have started := (computes.start index number key (count + 1)).1
  have receivedStarted := (started.alike.recipients url.authority).trans received
  have stays : host.stays := host_of_recipient Host.stays computes.direct rfl received
  have fetched := fetch_of_host sent receivedStarted stays hops
  obtain ⟨cause, fails⟩ := receive_of_refuses (computes.refuses received)
    ((PeerPath.clientOf origin).url name key) url
  rw [fails] at fetched
  rw [(lookups_sends found (computes.rests found isName) nobody sends fetched
    (group?_started found key (count + 1)) nofun).1]

/-! ## Where nobody waits -/

/-- Whether nobody waits in the groups at some places. -/
def CalmAt (places : Nat → Nat → Prop) (cluster : Cluster) : Prop :=
  ∀ index number group, cluster.group? index number = some group → places index number →
    group.callers = []

/-- Lookups that start disturb no other group. -/
theorem CalmAt.start_elsewhere (calm : CalmAt places cluster) (index number : Nat) (key : String)
    (count : Nat) : CalmAt (fun other otherNumber => places other otherNumber ∧
      ¬ (other = index ∧ otherNumber = number)) (cluster.start index number key count).1 := by
  intro other otherNumber after found place
  rw [group?_start_other place.2] at found
  exact calm other otherNumber after found place.1

/-- Lookups that end where they are leave nobody. -/
theorem CalmAt.start_local (calm : CalmAt places cluster)
    (found : cluster.group? index number = some group)
    (rests : (GroupState.promises name function).Rests group) (nobody : group.callers = [])
    (isLocal : group.world.IsLocal key) (count : Nat) :
    CalmAt places (cluster.start index number key count).1 := by
  intro other otherNumber after isAfter place
  by_cases same : other = index ∧ otherNumber = number
  · rw [same.1, same.2, group?_started found] at isAfter
    rw [← Option.some.inj isAfter]
    exact (Group.run_local rests nobody isLocal count).1
  · exact calm.start_elsewhere index number key count other otherNumber after isAfter ⟨place, same⟩

/-- A step after which nobody is left in its group ends the disturbance. -/
theorem CalmAt.step {event : Group.Event}
    (calm : CalmAt (fun other otherNumber => places other otherNumber ∧
      ¬ (other = index ∧ otherNumber = number)) cluster)
    (left : ∀ last, (cluster.step index number event).1.group? index number = some last →
      last.callers = []) : CalmAt places (cluster.step index number event).1 := by
  intro other otherNumber after isAfter place
  by_cases same : other = index ∧ otherNumber = number
  · rw [same.1, same.2] at isAfter
    exact left after isAfter
  · rw [group?_step_other same] at isAfter
    exact calm other otherNumber after isAfter ⟨place, same⟩

end RingCache.Cluster
