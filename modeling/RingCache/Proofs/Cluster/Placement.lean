import RingCache.Proofs.Cluster.Owners

/-!
# Where keys are kept

If nodes agree on their peers, the owner of a key is the only node that loads it and
keeps it; every other node asks the owner, with one request for all lookups that come
together (`Cluster.key_stays_with_owner`). This takes a group and a key that stand in a
path as they are, so that requests for them arrive, and that are not too long to be sent.

What makes it so is kept by every query (`Cluster.Placed`): nobody waits in the groups
of the name, and at all other nodes the key is absent. If there are no limits, the
source of the owner is moreover called once at most (`Cluster.Spends`).
-/

namespace RingCache.Cluster

open PeerPath

variable {setups : List Setup} {peers : List String} {replicas : Nat} {name key : String}
  {function : String → Except String Octets} {value : Octets} {home : Setup}
  {cluster next : Cluster} {sights : List Sight} {index number owner place count : Nat}
  {group : Group} {promises : Promises Group.loads} {places : Nat → Nat → Prop}

/-! ## What lookups keep -/

/-- What lookups may have fetched: values of the function, and for a key that arrives the
value itself. -/
def Fetched (function : String → Except String Octets) (name key : String) (outcome : Outcome) :
    Prop :=
  GroupState.IsTrue function key outcome ∧
    ∀ value, Stands name → Stands key → function key = .ok value →
      outcome.result? = some (.ok value)

/-- Lookups keep what groups promise; apart from the source of the owner's group, they call
that of their own group only, and only as it promises. -/
theorem Looking.rests (looking : Looking function home owner name key cluster index number count
      next sights)
    (rests : RestsAt promises places cluster)
    (accepts : ∀ outcome, Fetched function name key outcome → promises.accepts key outcome) :
    RestsAt promises places next ∧ ∀ other group asked, .load other group asked ∈ sights →
      other = owner ∨ other = index ∧ (places index number → promises.makes key (.load asked)) := by
  have allowed : ∀ {notices : List (Notice Call Result)},
      (places index number → ∀ notice ∈ notices, promises.Allows key notice) →
        ∀ other group asked, .load other group asked ∈ loadsOf index name notices →
          other = index ∧ (places index number → promises.makes key (.load asked)) := by
    intro notices allows other group asked listed
    obtain ⟨id, called, noticed, isLoad⟩ := mem_loadsOf.mp listed
    obtain ⟨rfl, _, rfl⟩ := Sight.load.inj isLoad
    exact ⟨rfl, fun isPlace => allows isPlace _ noticed⟩
  cases looking with
  | alone count isLocal =>
      obtain ⟨restsNext, allows⟩ := rests.start index number key count
      exact ⟨restsNext, fun other group asked listed =>
        .inr (allowed allows other group asked listed)⟩
  | fetched count place times url outcome asked finished isAsked isFinished _ _ isTrue _ succeeds =>
      subst isAsked isFinished
      have restsAsked := ((rests.start index number key (count + 1)).1.start owner place key times).1
      obtain ⟨restsNext, allows⟩ := restsAsked.step index number fun _ =>
        .finish outcome (accepts outcome ⟨isTrue, fun value nameStands keyStands computed =>
          (succeeds value nameStands keyStands computed).2⟩)
      refine ⟨restsNext, fun other group asked listed => ?_⟩
      rcases List.mem_append.mp listed with before | last
      · rcases List.mem_cons.mp before with isRequest | atOwner
        · cases isRequest
        · obtain ⟨_, _, _, isLoad⟩ := mem_loadsOf.mp atOwner
          exact .inl (Sight.load.inj isLoad).1
      · exact .inr (allowed allows other group asked last)

/-- What holds of a cluster between queries, as to a key and its owner. -/
structure Placed (setups : List Setup) (name : String) (function : String → Except String Octets)
    (key : String) (owner : Nat) (cluster : Cluster) : Prop where
  computes : cluster.Computes name function
  alike : Alike (build setups []) cluster
  calm : CalmAt (Serves setups name) cluster
  absent : RestsAt (GroupState.absent name function key)
    (fun index number => Serves setups name index number ∧ index ≠ owner) cluster

/-- Whether a group keeps a key, if it is there. -/
def Resident (index number : Nat) (key : String) (cluster : Cluster) : Prop :=
  ∀ group, cluster.group? index number = some group → group.world.cache.contains key

/-- How often the source of the owner's group is called for a key: not at all if the key
is kept there, and then it goes on to be kept; and else once at most, after which it is
kept. -/
structure Spends (name key : String) (owner place : Nat) (cluster next : Cluster)
    (sights : List Sight) : Prop where
  once : Sight.loads name key sights ≤ 1
  kept : Resident owner place key cluster →
    Sight.loads name key sights = 0 ∧ Resident owner place key next
  keeps : Sight.loads name key sights ≠ 0 → Resident owner place key next

/-- Where the source is not called, nothing is spent. -/
theorem Spends.of_nothing (nothing : Sight.loads name key sights = 0)
    (kept : Resident owner place key cluster → Resident owner place key next) :
    Spends name key owner place cluster next sights :=
  ⟨nothing.trans_le (Nat.zero_le 1), fun resident => ⟨nothing, kept resident⟩,
    fun spends => absurd nothing spends⟩

/-- What happens elsewhere spends nothing. -/
theorem Spends.of_same (same : next.group? owner place = cluster.group? owner place)
    (nothing : Sight.loads name key sights = 0) :
    Spends name key owner place cluster next sights :=
  .of_nothing nothing fun resident => by rwa [Resident, same]

/-- What happens elsewhere before and after spends nothing more. -/
theorem Spends.around {started asked : Cluster} {all : List Sight}
    (spends : Spends name key owner place started asked sights)
    (before : started.group? owner place = cluster.group? owner place)
    (after : next.group? owner place = asked.group? owner place)
    (same : Sight.loads name key all = Sight.loads name key sights) :
    Spends name key owner place cluster next all := by
  have sameBefore : Resident owner place key started ↔ Resident owner place key cluster := by
    rw [Resident, Resident, before]
  have sameAfter : Resident owner place key next ↔ Resident owner place key asked := by
    rw [Resident, Resident, after]
  constructor
  · rw [same]
    exact spends.once
  · rw [same, ← sameBefore, sameAfter]
    exact spends.kept
  · rw [same, sameAfter]
    exact spends.keeps

/-- The groups of the owner that have no limit. -/
abbrev Unbounded (name : String) (function : String → Except String Octets) (owner place : Nat)
    (cluster : Cluster) : Prop :=
  RestsAt (GroupState.bounded name function 0)
    (fun index number => index = owner ∧ number = place) cluster

/-- Lookups at the owner call the source once at most. -/
theorem spends_start (computes : cluster.Computes name function)
    (found : cluster.group? owner place = some group) (isName : group.name = name)
    (nobody : group.callers = []) (named : key ≠ "") (owned : group.world.owner? key = none)
    (unbounded : Unbounded name function owner place cluster) (computed : function key = .ok value)
    (count : Nat) :
    let started := cluster.start owner place key count
    Spends name key owner place cluster started.1 (loadsOf owner name started.2) := by
  intro started
  have rests := computes.computes owner place group found
    ((groupName_of_group? found).trans isName)
  have limited := (unbounded owner place group found ⟨rfl, rfl⟩).world.2
  obtain ⟨once, kept, keeps⟩ :=
    Group.run_owned rests nobody named limited owned computed owner count
  have isNext : ∀ after, started.1.group? owner place = some after →
      after = (group.run (Group.lookups key count)).1 := by
    intro after isAfter
    rw [group?_started found] at isAfter
    exact (Option.some.inj isAfter).symm
  rw [← notices_start found] at once kept keeps
  refine ⟨once, fun resident => ⟨kept (resident group found), fun after isAfter => ?_⟩,
    fun spends after isAfter => ?_⟩
  · rw [isNext after isAfter]
    exact (keeps (.inr (resident group found))).2
  · rw [isNext after isAfter]
    exact (keeps (.inl spends)).2

/-- What a query keeps, as to a key and its owner. -/
structure Stays (setups : List Setup) (name : String) (function : String → Except String Octets)
    (key : String) (owner place : Nat) (cluster next : Cluster) (sights : List Sight) : Prop where
  placed : Placed setups name function key owner next
  loads : ∀ index, .load index name key ∈ sights → index = owner
  spends : Unbounded name function owner place cluster →
    Unbounded name function owner place next ∧ Spends name key owner place cluster next sights

/-- Calls for other keys, or of other groups, are not counted. -/
theorem Moves.loads_eq_zero {other asked : String}
    (moves : Moves name function other asked cluster next sights)
    (differs : ¬ (name = other ∧ key = asked)) : Sight.loads name key sights = 0 := by
  refine List.countP_eq_zero.mpr fun sight listed isLoad => ?_
  cases sight with
  | request url => cases isLoad
  | load index group own =>
      rw [Sight.isLoad, Bool.and_eq_true, beq_iff_eq, beq_iff_eq] at isLoad
      obtain ⟨rfl, rfl⟩ := isLoad
      exact differs (moves.loads index group own listed)

/-- Lookups in other groups change nothing. -/
theorem Placed.stays_other (placed : Placed setups name function key owner cluster)
    (atHome : Serves setups name owner place) {other asked : String}
    (moves : Moves name function other asked cluster next sights) (differs : other ≠ name) :
    Stays setups name function key owner place cluster next sights := by
  have same : ∀ {index number : Nat}, Serves setups name index number →
      next.group? index number = cluster.group? index number := by
    intro index number serves
    refine moves.others index number ?_
    rw [placed.alike.groupName, serves]
    exact differs.symm
  have nothing : Sight.loads name key sights = 0 :=
    moves.loads_eq_zero fun both => differs both.1.symm
  refine ⟨⟨moves.computes, placed.alike.trans moves.alike, ?_, ?_⟩, ?_, fun unbounded => ⟨?_, ?_⟩⟩
  · intro index number group found serves
    rw [same serves] at found
    exact placed.calm index number group found serves
  · intro index number group found isPlace
    rw [same isPlace.1] at found
    exact placed.absent index number group found isPlace
  · intro index listed
    exact absurd (moves.loads index name key listed).1.symm differs
  · rintro index number group found ⟨rfl, rfl⟩
    rw [same atHome] at found
    exact unbounded index number group found ⟨rfl, rfl⟩
  · exact .of_same (same atHome) nothing

/-- Lookups of other keys of the group change nothing of this key. -/
theorem Placed.stays_asked (placed : Placed setups name function key owner cluster)
    (atHome : Serves setups name owner place) {asked : String} {other : Nat} {otherHome : Setup}
    (moves : Moves name function name asked cluster next sights)
    (looking : Looking function otherHome other name asked cluster index number count next sights)
    (calm : CalmAt (Serves setups name) next) (differs : asked ≠ key) :
    Stays setups name function key owner place cluster next sights := by
  have nothing : Sight.loads name key sights = 0 :=
    moves.loads_eq_zero fun both => differs both.2.symm
  have absentNext := (looking.rests placed.absent fun outcome fetched =>
    ⟨fetched.1, fun same => absurd same differs⟩).1
  refine ⟨⟨moves.computes, placed.alike.trans moves.alike, calm, absentNext⟩, ?_,
    fun unbounded => ⟨(looking.rests unbounded fun outcome fetched => fetched.1).1, ?_⟩⟩
  · intro index listed
    exact absurd (moves.loads index name key listed).2.symm differs
  · refine .of_nothing nothing fun resident => ?_
    have residentRests : RestsAt (GroupState.resident name function key)
        (fun index number => index = owner ∧ number = place) cluster := by
      rintro index number group found ⟨rfl, rfl⟩
      have rests := unbounded index number group found ⟨rfl, rfl⟩
      exact Promises.rests_of_nobody _ rests.sound (placed.calm index number group found atHome)
        ⟨rests.world.1, rests.world.2, resident group found⟩
    have restsNext := (looking.rests residentRests fun outcome fetched => fetched.1).1
    exact fun group found => (restsNext owner place group found ⟨rfl, rfl⟩).world.2.2

/-- A cluster whose nodes agree has hops enough for a lookup, a fetch and another lookup. -/
theorem Placed.exists_hops (placed : Placed setups name function key owner cluster)
    (isHome : setups[owner]? = some home) : ∃ hops, cluster.hops = hops + 3 := by
  have size : cluster.members.length = setups.length := by
    rw [placed.alike.size, build, List.length_map]
  have filled : owner < setups.length := (List.getElem?_eq_some_iff.mp isHome).1
  have unhosted : cluster.hosts = [] := placed.alike.hosts
  exact ⟨2 * cluster.members.length - 1, by rw [hops, unhosted, List.length_nil]; omega⟩

/-! ## Queries of nodes that agree -/

section Agreement

variable (agreement : Agreement setups peers replicas name function)
  (isHome : setups[owner]? = some home)
  (owns : (Pool.ringOf replicas peers).owner? key = some (Address.normalize home.address))
  (stands : Stands name ∧ Stands key)

include agreement isHome owns stands

/-- A cluster that has just been built is in order. -/
theorem placed_build (sendable : ∃ url,
      Transport.target ((clientOf (Address.normalize home.address)).url name key) = .ok url) :
    Placed setups name function key owner (build setups []) := by
  have computes := agreement.computes_build
  refine ⟨computes, .refl _, fun index number group found _ => ?_,
    fun index number group found isPlace => ?_⟩
  · obtain ⟨setup, _, entry, _, rfl⟩ := exists_entry_build found
    rfl
  · have rests := computes.computes index number group found isPlace.1
    obtain ⟨setup, listed, asks⟩ := exists_setup (.refl _) found
    have owned := asks key
    rw [agreement.picker_eq isHome owns listed, if_neg isPlace.2] at owned
    have isName : group.name = name := (groupName_of_group? found).symm.trans isPlace.1
    obtain ⟨other, _, entry, _, rfl⟩ := exists_entry_build found
    refine Promises.rests_of_nobody _ rests.sound rfl ⟨rests.world, _, stands.2.1, Bool.false_ne_true,
      owned, ?_⟩
    rw [show (other.group entry).world.name = name from isName]
    dsimp only [Client.peer]
    exact online_eq_held.mpr sendable

variable (computed : function key = .ok value)

include computed

/-- Lookups of the key end with the value, at the owner without a request, and at any other
node with one request to the owner. -/
theorem Placed.answers (placed : Placed setups name function key owner cluster)
    {setup : Setup} (listed : setups[index]? = some setup) (count : Nat) :
    ∃ next sights, cluster.get? index name key (count + 1) =
        some (next, sights, List.replicate (count + 1) (.ok value)) ∧
      (index = owner → Sight.requests sights = []) ∧
      (index ≠ owner → ∃ url, Sight.requests sights = [url] ∧
        cluster.recipient url.authority = .node owner) := by
  obtain ⟨node, present, _, names⟩ := exists_node placed.alike listed
  obtain ⟨number, leads⟩ := agreement.exists_number listed
  obtain ⟨group, found, isName⟩ :=
    placed.computes.indexed index node present name number ((names name).trans leads)
  obtain ⟨hops, isHops⟩ := placed.exists_hops isHome
  obtain ⟨next, sights, looked, looking, _⟩ := agreement.looking isHome owns placed.alike
    placed.computes placed.calm found isName (count + 1) hops
  have got : cluster.get? index name key (count + 1) =
      some (lookups cluster.hops cluster index number key (count + 1)) := by
    rw [get?, present, Option.bind_eq_bind, Option.bind_some, names name, leads]
    rfl
  rw [isHops, looked, Source.answer_of_ok stands.2.1 computed] at got
  refine ⟨next, sights, got, ?_⟩
  cases looking with
  | alone _ isLocal =>
      refine ⟨fun _ => requests_loadsOf, fun differs => ?_⟩
      obtain ⟨_, peer, sends⟩ :=
        (placed.absent index number group found ⟨placed.alike.serves found isName, differs⟩).world
      rcases isLocal.resolve_left (Nat.succ_ne_zero count) group found with unnamed | kept | alone
      · exact absurd unnamed sends.named
      · exact absurd kept sends.absent
      · exact absurd sends.held (alone peer sends.owned)
  | fetched _ other times url outcome asked finished isAsked isFinished differs received _ _ _ =>
      refine ⟨fun same => absurd same differs, fun _ => ⟨url, ?_, received⟩⟩
      rw [Sight.requests_append, Sight.requests_request, requests_loadsOf, requests_loadsOf]
      rfl

variable (leads : home.node.registry.number? name = some place)

include leads

/-- Lookups of the key call the source of the owner once at most, and no other one. -/
theorem Placed.spends (placed : Placed setups name function key owner cluster)
    (looking : Looking function home owner name key cluster index number count next sights)
    (found : cluster.group? index number = some group) (isName : group.name = name)
    (sameNumber : index = owner → number = place)
    (unbounded : Unbounded name function owner place cluster) :
    Spends name key owner place cluster next sights := by
  obtain ⟨node, present, _, names⟩ := exists_node placed.alike isHome
  obtain ⟨own, isOwn, ownName⟩ :=
    placed.computes.indexed owner node present name place ((names name).trans leads)
  have ownNobody := placed.calm owner place own isOwn (placed.alike.serves isOwn ownName)
  have owned := agreement.isLocal ⟨home, isHome, owns⟩ placed.alike isOwn
  have isPlace : index ≠ owner → Serves setups name index number ∧ index ≠ owner :=
    fun differs => ⟨placed.alike.serves found isName, differs⟩
  cases looking with
  | alone count isLocal =>
      by_cases same : index = owner
      · obtain rfl := sameNumber same
        subst same
        exact spends_start placed.computes isOwn ownName ownNobody stands.2.1 owned unbounded
          computed count
      · have allows := (placed.absent.start index number key count).2 (isPlace same)
        have nothing : Sight.loads name key
            (loadsOf index name (cluster.start index number key count).2) = 0 :=
          Group.loads_of_allows allows (fun makes => makes rfl) index
        have unchanged : (cluster.start index number key count).1.group? owner place =
            cluster.group? owner place :=
          group?_start_other (fun isOwner => same isOwner.1.symm) key count
        exact .of_same unchanged nothing
  | fetched count other times url outcome asked finished isAsked isFinished differs _ isTrue asks
      succeeds =>
      subst isAsked isFinished
      let started := (cluster.start index number key (count + 1)).1
      have apart : ¬ (owner = index ∧ place = number) := fun same => differs same.1.symm
      have unchanged : started.group? owner place = cluster.group? owner place :=
        group?_start_other apart key (count + 1)
      have absentAsked :=
        ((placed.absent.start index number key (count + 1)).1.start owner other key times).1
      have allows := (absentAsked.step index number fun _ => .finish outcome ⟨isTrue, fun _ =>
        ⟨value, (succeeds value stands.1 stands.2 computed).2⟩⟩).2 (isPlace differs)
      have nothing : Sight.loads name key (loadsOf index name ((started.start owner other key
          times).1.step index number (.finish key outcome)).2) = 0 :=
        Group.loads_of_allows allows (fun makes => makes rfl) index
      have asked : Spends name key owner place started (started.start owner other key times).1
          (loadsOf owner name (started.start owner other key times).2) := by
        rcases asks with rfl | isOther
        · exact .of_nothing rfl fun resident => resident
        · obtain rfl : place = other := Option.some.inj (leads.symm.trans isOther)
          exact spends_start (placed.computes.start index number key (count + 1)).1.computes
            (unchanged.trans isOwn) ownName ownNobody stands.2.1 owned
            (unbounded.start index number key (count + 1)).1 computed times
      have unchangedLast : ((started.start owner other key times).1.step index number
          (.finish key outcome)).1.group? owner place =
            (started.start owner other key times).1.group? owner place := group?_step_other apart
      refine asked.around unchanged unchangedLast ?_
      rw [Sight.loads_append, Sight.loads_request, nothing, Nat.add_zero]

/-- Lookups of the key itself. -/
theorem Placed.stays_own (placed : Placed setups name function key owner cluster)
    (moves : Moves name function name key cluster next sights)
    (looking : Looking function home owner name key cluster index number count next sights)
    (calm : CalmAt (Serves setups name) next)
    (found : cluster.group? index number = some group) (isName : group.name = name)
    (sameNumber : index = owner → number = place) :
    Stays setups name function key owner place cluster next sights := by
  obtain ⟨absentNext, loads⟩ := looking.rests placed.absent fun outcome fetched =>
    ⟨fetched.1, fun _ => ⟨value, fetched.2 value stands.1 stands.2 computed⟩⟩
  refine ⟨⟨moves.computes, placed.alike.trans moves.alike, calm, absentNext⟩, ?_,
    fun unbounded => ⟨(looking.rests unbounded fun outcome fetched => fetched.1).1,
      placed.spends agreement isHome owns stands computed leads looking found isName sameNumber
        unbounded⟩⟩
  intro other listed
  rcases loads other name key listed with isOwner | ⟨rfl, makes⟩
  · exact isOwner
  · by_contra differs
    exact makes ⟨placed.alike.serves found isName, differs⟩ rfl

/-- Every query keeps this. -/
theorem Placed.stays (placed : Placed setups name function key owner cluster)
    {other asked : String} {results : List Result}
    (got : cluster.get? index other asked count = some (next, sights, results)) :
    Stays setups name function key owner place cluster next sights := by
  obtain ⟨node, number, group, present, leadsNow, found, isName, isLooked⟩ :=
    placed.computes.exists_group got
  have moves := ((looksUp_and_fetches name function cluster.hops).1 cluster index number asked count
    placed.computes).1
  rw [← isLooked, groupName_of_group? found, isName] at moves
  obtain ⟨homeNode, homePresent, _, homeNames⟩ := exists_node placed.alike isHome
  obtain ⟨own, isOwn, ownName⟩ := placed.computes.indexed owner homeNode homePresent name place
    ((homeNames name).trans leads)
  have atHome := placed.alike.serves isOwn ownName
  by_cases same : other = name
  · subst same
    obtain ⟨hops, isHops⟩ := placed.exists_hops isHome
    rw [isHops] at isLooked
    by_cases isKey : asked = key
    · subst isKey
      obtain ⟨after, seen, looked, looking, calm⟩ := agreement.looking isHome owns placed.alike
        placed.computes placed.calm found isName count hops
      rw [looked] at isLooked
      obtain ⟨rfl, rfl, _⟩ : next = after ∧ sights = seen ∧ _ := by simpa using isLooked
      refine placed.stays_own agreement isHome owns stands computed leads moves looking calm found
        isName ?_
      rintro rfl
      rw [homePresent] at present
      rw [← Option.some.inj present, homeNames, leads] at leadsNow
      exact (Option.some.inj leadsNow).symm
    · obtain ⟨otherOwner, otherHome, isOther, otherOwns⟩ :=
        agreement.exists_owner (List.ne_nil_of_mem (List.mem_of_getElem? isHome)) asked
      obtain ⟨after, seen, looked, looking, calm⟩ := agreement.looking isOther otherOwns placed.alike
        placed.computes placed.calm found isName count hops
      rw [looked] at isLooked
      obtain ⟨rfl, rfl, _⟩ : next = after ∧ sights = seen ∧ _ := by simpa using isLooked
      exact placed.stays_asked atHome moves looking calm isKey
  · exact placed.stays_other atHome moves same

/-- Queries one after the other keep this, and call the source of the owner once at most. -/
theorem Placed.inquire (placed : Placed setups name function key owner cluster)
    (queries : List Query) :
    let after := cluster.inquire queries
    let spent := Sight.loads name key (after.2.flatMap Reading.sights)
    Placed setups name function key owner after.1 ∧
      (∀ reading ∈ after.2, ∀ index, .load index name key ∈ reading.sights → index = owner) ∧
      (Unbounded name function owner place cluster →
        spent ≤ 1 ∧ (Resident owner place key cluster → spent = 0)) := by
  induction queries generalizing cluster with
  | nil => exact ⟨placed, nofun, fun _ => ⟨Nat.zero_le 1, fun _ => rfl⟩⟩
  | cons query rest inductionHypothesis =>
      rw [Cluster.inquire]
      split
      · exact inductionHypothesis placed
      · rename_i next sights results got
        obtain ⟨placedNext, loads, spends⟩ :=
          placed.stays agreement isHome owns stands computed leads got
        obtain ⟨placedLast, loadsLater, spendsLater⟩ := inductionHypothesis placedNext
        refine ⟨placedLast, List.forall_mem_cons.mpr ⟨loads, loadsLater⟩, fun unbounded => ?_⟩
        obtain ⟨unboundedNext, once, kept, keeps⟩ := spends unbounded
        obtain ⟨onceLater, keptLater⟩ := spendsLater unboundedNext
        dsimp only
        rw [List.flatMap_cons, Sight.loads_append]
        refine ⟨?_, fun resident => ?_⟩
        · by_cases spent : Sight.loads name key sights = 0
          · rwa [spent, Nat.zero_add]
          · rwa [keptLater (keeps spent)]
        · rw [(kept resident).1, keptLater (kept resident).2]

end Agreement

/-- If nodes agree on their peers, then every key that stands in a path, as the name of the
group does, and whose request is not too long to be sent, has one owner among them. If the
source has a value for the key, then after any queries whatever only the owner's source
has been called for it, and only the owner keeps it; whoever is asked for the key next
returns the value to all who ask at once, the owner without a request, and every other
node with one request, to the owner. If the groups of the name have no limit, the source
has been called for the key once at most. -/
theorem key_stays_with_owner (setups : List Setup) (peers : List String) (replicas : Nat)
    (name : String) (function : String → Except String Octets) (key : String) (value : Octets)
    (agreement : Agreement setups peers replicas name function) (filled : setups ≠ [])
    (stands : Stands name ∧ Stands key)
    (sendable : ∀ setup ∈ setups, ∃ url,
      Transport.target ((clientOf (Address.normalize setup.address)).url name key) = .ok url)
    (computed : function key = .ok value) :
    ∃ owner home, setups[owner]? = some home ∧
      (Pool.ringOf replicas peers).owner? key = some (Address.normalize home.address) ∧
      ∀ queries,
        let after := (build setups []).inquire queries
        (∀ reading ∈ after.2, ∀ index, .load index name key ∈ reading.sights → index = owner) ∧
        (∀ index number group, after.1.group? index number = some group → group.name = name →
          group.isCached key → index = owner) ∧
        (∀ (index : Nat) setup, setups[index]? = some setup → ∀ count, ∃ next sights,
          after.1.get? index name key (count + 1) =
              some (next, sights, List.replicate (count + 1) (.ok value)) ∧
            (index = owner → Sight.requests sights = []) ∧
            (index ≠ owner → ∃ url, Sight.requests sights = [url] ∧
              after.1.recipient url.authority = .node owner)) ∧
        ((∀ setup ∈ setups, ∀ entry ∈ setup.groups, entry.1 = name → entry.2.1 = 0) →
          Sight.loads name key (after.2.flatMap Reading.sights) ≤ 1) := by
  obtain ⟨owner, home, isHome, owns⟩ := agreement.exists_owner filled key
  obtain ⟨place, leads⟩ := agreement.exists_number isHome
  have placed := placed_build agreement isHome owns stands
    (sendable home (List.mem_of_getElem? isHome))
  refine ⟨owner, home, isHome, owns, fun queries => ?_⟩
  obtain ⟨placedLast, loads, spends⟩ :=
    placed.inquire agreement isHome owns stands computed leads queries
  refine ⟨loads, fun index number group found isName kept => ?_, fun index setup listed count =>
    placedLast.answers agreement isHome owns stands computed listed count, fun unlimited => ?_⟩
  · by_contra differs
    obtain ⟨_, peer, sends⟩ := (placedLast.absent index number group found
      ⟨placedLast.alike.serves found isName, differs⟩).world
    exact sends.absent kept
  · refine (spends ?_).1
    rintro index number group found ⟨rfl, rfl⟩
    obtain ⟨node, present, _, names⟩ := exists_node (.refl _) isHome
    obtain ⟨_, isFound, isName⟩ :=
      placed.computes.indexed index node present name number ((names name).trans leads)
    rw [found] at isFound
    rw [← Option.some.inj isFound] at isName
    have rests := placed.computes.computes index number group found
      ((groupName_of_group? found).trans isName)
    obtain ⟨setup, listed, entry, mem, rfl⟩ := exists_entry_build found
    have noLimit := unlimited setup (List.mem_of_getElem? listed) entry mem isName
    refine Promises.rests_of_nobody _ rests.sound rfl ⟨rests.world, ?_⟩
    exact noLimit ▸ LocalCache.Limited.empty entry.2.1

/-- Two nodes, of which one spells its address with a blank and a slash, load a key once. -/
theorem two_nodes_load_once :
    let function (key : String) : Except String Octets := .ok (Utf8.encode key)
    let peers := ["http://a:1", "http://b:2"]
    let setups : List Setup :=
      [⟨"http://a:1", some "a:1", peers, 1, [("scores", 0, .ofFunction function)]⟩,
        ⟨" http://b:2/", some "b:2", peers, 1,
          [("names", 9, .held), ("scores", 0, .ofFunction function)]⟩]
    ∃ owner, ∀ queries,
      let readings := ((build setups []).inquire queries).2
      (∀ reading ∈ readings, ∀ index, .load index "scores" "Tom" ∈ reading.sights →
        index = owner) ∧
      Sight.loads "scores" "Tom" (readings.flatMap Reading.sights) ≤ 1 := by
  intro function peers setups
  have isPeers : Pool.addresses peers = setups.map fun setup => Address.normalize setup.address := by
    decide
  have entries : ∀ setup ∈ setups, ∀ entry ∈ setup.groups, entry.1 = "scores" →
      entry.2 = (0, .ofFunction function) := by
    intro setup mem entry listed isName
    simp only [setups, List.mem_cons, List.not_mem_nil, or_false] at mem
    rcases mem with rfl | rfl
    · rw [List.mem_singleton.mp listed]
    · simp only [List.mem_cons, List.not_mem_nil, or_false] at listed
      rcases listed with rfl | rfl
      · exact absurd isName (by decide)
      · rfl
  have agreement : Agreement setups peers 1 "scores" function := by
    refine ⟨?_, by decide, ?_, by decide, ?_, ?_, fun setup mem entry listed isName =>
      congrArg Prod.snd (entries setup mem entry listed isName)⟩
    · simp [setups]
    · intro address
      rw [isPeers]
      exact List.mem_map
    · intro index setup listed
      match index with
      | 0 =>
          rw [← Option.some.inj listed]
          exact ⟨{ scheme := "http", host := some "a", port := some 1, path := "/_cache/" },
            by decide +kernel, rfl⟩
      | 1 =>
          rw [← Option.some.inj listed]
          exact ⟨{ scheme := "http", host := some "b", port := some 2, path := "/_cache/" },
            by decide +kernel, rfl⟩
      | _ + 2 => cases listed
    · simp [setups]
  have sendable : ∀ setup ∈ setups, ∃ url, Transport.target
      ((clientOf (Address.normalize setup.address)).url "scores" "Tom") = .ok url := by
    intro setup mem
    simp only [setups, List.mem_cons, List.not_mem_nil, or_false] at mem
    rcases mem with rfl | rfl
    · let url : Url :=
        { scheme := "http", host := some "a", port := some 1, path := "/_cache/scores/Tom" }
      have sendable : url.isSendable := by
        rw [isSendable_eq]
        decide +kernel
      exact ⟨url, target_of_parse? (by decide +kernel) (by decide +kernel) rfl rfl sendable⟩
    · let url : Url :=
        { scheme := "http", host := some "b", port := some 2, path := "/_cache/scores/Tom" }
      have sendable : url.isSendable := by
        rw [isSendable_eq]
        decide +kernel
      exact ⟨url, target_of_parse? (by decide +kernel) (by decide +kernel) rfl rfl sendable⟩
  obtain ⟨owner, _, _, _, placed⟩ := key_stays_with_owner setups peers 1 "scores" function "Tom"
    (Utf8.encode "Tom") agreement (List.cons_ne_nil _ _) (by decide) sendable rfl
  refine ⟨owner, fun queries => ?_⟩
  obtain ⟨loads, _, _, once⟩ := placed queries
  exact ⟨loads, once fun setup mem entry listed isName =>
    congrArg Prod.fst (entries setup mem entry listed isName)⟩

end RingCache.Cluster
