import RingCache.Proofs.Cluster.Fetches

/-!
# Nodes that agree on their peers

Nodes agree if all of them have one list of peers, namely their own addresses, and each
is reached under its own (`Cluster.Agreement`). Then every key has one owner among them
(`Agreement.exists_owner`). Where the owner is asked, a lookup ends
(`Agreement.isLocal`), and from anywhere else at most one request goes out, to the owner,
which does not forward it (`Agreement.fetch_stands`, `Agreement.fetch_falls`). So all
lookups in a group in which nobody waits go in one of two ways (`Cluster.Looking`).
-/

namespace RingCache.Cluster

open Http

/-- Nodes with the same peers, which are these nodes, and with the same number of ring
positions, all of which serve a group of a name that computes a function. -/
structure Agreement (setups : List Setup) (peers : List String) (replicas : Nat) (name : String)
    (function : String → Except String Octets) : Prop where
  /-- The nodes know the same peers. -/
  same : ∀ setup ∈ setups, setup.peers = peers ∧ setup.replicas = replicas
  /-- Peers claim positions. -/
  claim : 0 < replicas
  /-- The peers are the nodes. -/
  exact : ∀ address, address ∈ Pool.addresses peers ↔
    ∃ setup ∈ setups, Address.normalize setup.address = address
  /-- Their addresses are plain origins. -/
  plain : ∀ setup ∈ setups, Url.isOrigin (Address.normalize setup.address)
  /-- A request to an address reaches the node of this address. -/
  reached : ∀ (index : Nat) setup, setups[index]? = some setup → ∃ home,
    Url.parse? (PeerPath.clientOf (Address.normalize setup.address)).base = some home ∧
      (build setups []).recipient home.authority = .node index
  /-- They serve the group. -/
  serves : ∀ setup ∈ setups, ∃ entry ∈ setup.groups, entry.1 = name
  /-- It computes the function. -/
  sources : ∀ setup ∈ setups, ∀ entry ∈ setup.groups, entry.1 = name →
    entry.2.2 = .ofFunction function

/-- The places of the groups of a name. -/
abbrev Serves (setups : List Setup) (name : String) (index number : Nat) : Prop :=
  (build setups []).groupName index number = name

/-- Whether a key is owned by a node. -/
def OwnedBy (setups : List Setup) (peers : List String) (replicas : Nat) (key : String)
    (owner : Nat) : Prop :=
  ∃ setup, setups[owner]? = some setup ∧
    (Pool.ringOf replicas peers).owner? key = some (Address.normalize setup.address)

namespace Agreement

variable {setups : List Setup} {peers : List String} {replicas : Nat} {name key : String}
  {function : String → Except String Octets} {cluster : Cluster} {index number owner : Nat}
  {group : Group}

variable (agreement : Agreement setups peers replicas name function)

include agreement

theorem computes_build : (build setups []).Computes name function := by
  refine Cluster.computes_build agreement.sources (fun setup mem address listed => ?_) nofun nofun
  rw [(agreement.same setup mem).1] at listed
  obtain ⟨other, otherMem, rfl⟩ := (agreement.exact address).mp listed
  exact agreement.plain other otherMem

/-- Nodes differ in their addresses. -/
theorem index_eq {setup other : Setup} {otherIndex : Nat} (listed : setups[index]? = some setup)
    (otherListed : setups[otherIndex]? = some other)
    (same : Address.normalize setup.address = Address.normalize other.address) :
    index = otherIndex := by
  obtain ⟨home, isHome, received⟩ := agreement.reached index setup listed
  obtain ⟨otherHome, isOther, otherReceived⟩ := agreement.reached otherIndex other otherListed
  rw [same, isOther] at isHome
  rw [Option.some.inj isHome, received] at otherReceived
  exact Recipient.node.inj otherReceived

/-- Every key has an owner. -/
theorem exists_owner (filled : setups ≠ []) (key : String) :
    ∃ owner, OwnedBy setups peers replicas key owner := by
  obtain ⟨setup, mem⟩ := List.exists_mem_of_ne_nil setups filled
  have holds := Pool.ringOf_holds replicas peers
  obtain ⟨address, found⟩ :=
    holds.exists_owner agreement.claim ((agreement.exact _).mpr ⟨setup, mem, rfl⟩) key
  obtain ⟨other, otherMem, rfl⟩ := (agreement.exact address).mp (holds.owner_mem found)
  obtain ⟨owner, listed⟩ := List.getElem?_of_mem otherMem
  exact ⟨owner, other, listed, found⟩

/-- The pool of the owner picks nobody, and all others pick the owner. -/
theorem picker_eq {home : Setup} (isHome : setups[owner]? = some home)
    (owns : (Pool.ringOf replicas peers).owner? key = some (Address.normalize home.address))
    {setup : Setup} (listed : setups[index]? = some setup) :
    setup.pool.picker key = if index = owner then none else
      some ((PeerPath.clientOf (Address.normalize home.address)).peer .online) := by
  obtain ⟨samePeers, sameReplicas⟩ := agreement.same setup (List.mem_of_getElem? listed)
  rw [← samePeers, ← sameReplicas] at owns
  have sameTest : Address.normalize home.address = Address.normalize setup.address ↔
      index = owner := by
    constructor
    · exact fun same => (agreement.index_eq isHome listed same).symm
    · rintro rfl
      rw [Option.some.inj (isHome.symm.trans listed)]
  rw [Setup.picker_of_owner owns]
  simp only [sameTest]
  rfl

end Agreement

/-! ## What stays as it was built -/

section Built

variable {setups : List Setup} {hosts : List (String × Host)} {cluster : Cluster}
  {index number : Nat} {group : Group}

/-- A group asks the pool of its node, as it was built. -/
theorem exists_setup (alike : Alike (build setups hosts) cluster)
    (found : cluster.group? index number = some group) :
    ∃ setup, setups[index]? = some setup ∧
      ∀ key, group.world.owner? key = setup.pool.picker key := by
  obtain ⟨before, present, same⟩ := alike.exists_group found
  obtain ⟨setup, isSetup, entry, _, rfl⟩ := exists_entry_build present
  refine ⟨setup, isSetup, fun key => ?_⟩
  rw [GroupState.owner?_of_nature same]
  rfl

theorem Alike.serves {name : String} (alike : Alike (build setups []) cluster)
    (found : cluster.group? index number = some group) (isName : group.name = name) :
    Serves setups name index number := by
  rw [Serves, ← alike.groupName, groupName_of_group? found, isName]

/-- A node that was built is there, with its base path and its names. -/
theorem exists_node (alike : Alike (build setups hosts) cluster) {setup : Setup}
    (listed : setups[index]? = some setup) :
    ∃ node, cluster.node? index = some node ∧ node.basePath = Address.defaultBasePath ∧
      ∀ name, node.registry.number? name = setup.node.registry.number? name := by
  have built : (build setups hosts).node? index = some setup.node := by
    rw [node?_build, listed]
    rfl
  obtain ⟨node, present, sameBase, sameNumber⟩ := alike.symm.exists_node built
  exact ⟨node, present, sameBase.symm.trans setup.basePath_node, fun name => (sameNumber name).symm⟩

end Built

namespace Agreement

variable {setups : List Setup} {peers : List String} {replicas : Nat} {name key : String}
  {function : String → Except String Octets} {cluster : Cluster} {index number owner : Nat}
  {group : Group}

variable (agreement : Agreement setups peers replicas name function)

include agreement

/-- The group of the name at a node. -/
theorem exists_number {setup : Setup} (listed : setups[index]? = some setup) :
    ∃ number, setup.node.registry.number? name = some number := by
  obtain ⟨entry, mem, rfl⟩ := agreement.serves setup (List.mem_of_getElem? listed)
  rw [setup.number?_node]
  exact Option.isSome_iff_exists.mp ((Registry.ofGroups_spec setup.groups).2.2 entry mem)

/-- Lookups at the owner wait for no peer. -/
theorem isLocal (owned : OwnedBy setups peers replicas key owner)
    (alike : Alike (build setups []) cluster)
    (found : cluster.group? owner number = some group) : group.world.owner? key = none := by
  obtain ⟨home, isHome, owns⟩ := owned
  obtain ⟨setup, listed, asks⟩ := exists_setup alike found
  rw [asks, agreement.picker_eq isHome owns listed, if_pos rfl]

/-- Lookups that wait for a peer wait for the owner, and their request can be sent. -/
theorem exists_target {home : Setup} (isHome : setups[owner]? = some home)
    (owns : (Pool.ringOf replicas peers).owner? key = some (Address.normalize home.address))
    (alike : Alike (build setups []) cluster)
    (found : cluster.group? index number = some group) (isName : group.name = name) {peer : Peer}
    (sends : group.world.Sends key peer) :
    index ≠ owner ∧
      peer = (PeerPath.clientOf (Address.normalize home.address)).peer .online ∧
      ∃ url, Transport.target
        ((PeerPath.clientOf (Address.normalize home.address)).url name key) = .ok url := by
  obtain ⟨setup, listed, asks⟩ := exists_setup alike found
  have owned := sends.owned
  rw [asks, agreement.picker_eq isHome owns listed] at owned
  split at owned
  · cases owned
  · rename_i differs
    have isPeer := (Option.some.inj owned).symm
    have held := sends.held
    rw [show group.world.name = name from isName, isPeer] at held
    dsimp only [Client.peer] at held
    exact ⟨differs, isPeer, PeerPath.online_eq_held.mp held⟩

/-- A request to the owner is received by the owner. -/
theorem received {home : Setup} (isHome : setups[owner]? = some home)
    (alike : Alike (build setups []) cluster) {url : Url}
    (sent : Transport.target
      ((PeerPath.clientOf (Address.normalize home.address)).url name key) = .ok url) :
    cluster.recipient url.authority = .node owner := by
  obtain ⟨based, isBased, received⟩ := agreement.reached owner home isHome
  have plain := agreement.plain home (List.mem_of_getElem? isHome)
  rw [alike.recipients, PeerPath.authority_of_target plain isBased sent, received]

/-- The owner looks a key up that stands in a path, and leaves nobody waiting; the client
gets what a lookup is to return, if this is a value. -/
theorem fetch_stands {home : Setup} (isHome : setups[owner]? = some home)
    (owns : (Pool.ringOf replicas peers).owner? key = some (Address.normalize home.address))
    (alike : Alike (build setups []) cluster) (computes : cluster.Computes name function)
    (calm : ∀ place group, cluster.group? owner place = some group → group.name = name →
      group.callers = [])
    (stands : PeerPath.Stands name ∧ PeerPath.Stands key) {url : Url}
    (sent : Transport.target
      ((PeerPath.clientOf (Address.normalize home.address)).url name key) = .ok url) (hops : Nat) :
    ∃ place result, home.node.registry.number? name = some place ∧
      fetch (hops + 2) cluster (PeerPath.clientOf (Address.normalize home.address)) name key =
        ((cluster.start owner place key 1).1,
          .request url :: loadsOf owner name (cluster.start owner place key 1).2, some result) ∧
      (∀ value, function key = .ok value → result = .ok value) ∧
      ∀ places, CalmAt places cluster → CalmAt places (cluster.start owner place key 1).1 := by
  have plain := agreement.plain home (List.mem_of_getElem? isHome)
  obtain ⟨node, present, base, sameNumber⟩ := exists_node alike isHome
  obtain ⟨place, leads⟩ := agreement.exists_number isHome
  have leadsNow := (sameNumber name).trans leads
  obtain ⟨group, found, isName⟩ := computes.indexed owner node present name place leadsNow
  have nobody := calm place group found isName
  have isLocal : group.world.IsLocal key :=
    GroupState.isLocal_of_unowned (agreement.isLocal ⟨home, isHome, owns⟩ alike found)
  have asked := asked?_of_stands present base stands leadsNow (PeerPath.path_of_target plain sent)
  have rests := computes.rests found isName
  have looked := lookups_local found rests nobody isLocal 1 hops
  rw [← notices_start found] at looked
  refine ⟨place, Client.told (Source.answer function key), leads, ?_, fun value computed => ?_,
    fun _ calmAt => calmAt.start_local found rests nobody isLocal 1⟩
  · have lands := send_of_node (agreement.received isHome alike sent)
      ((PeerPath.clientOf (Address.normalize home.address)).url name key) Client.mostRedirects
    rw [fetch_lands (hops + 1) sent lands asked, looked]
    rfl
  · exact Client.told_eq_ok.mpr (Source.answer_of_ok stands.2.1 computed)

/-- The owner refuses a request for anything else. -/
theorem fetch_falls {home : Setup} (isHome : setups[owner]? = some home)
    (alike : Alike (build setups []) cluster)
    (falls : ¬ (PeerPath.Stands name ∧ PeerPath.Stands key)) {url : Url}
    (sent : Transport.target
      ((PeerPath.clientOf (Address.normalize home.address)).url name key) = .ok url) (hops : Nat) :
    ∃ result, fetch (hops + 1) cluster (PeerPath.clientOf (Address.normalize home.address)) name key =
      (cluster, [.request url], some result) := by
  have plain := agreement.plain home (List.mem_of_getElem? isHome)
  obtain ⟨node, present, base, _⟩ := exists_node alike isHome
  obtain ⟨response, responds, _⟩ := Node.decide_of_falls base "" falls
  have asked : cluster.asked? owner url = some (.respond response) := by
    rw [asked?, present, Option.map_some, PeerPath.path_of_target plain sent, responds]
  have lands := send_of_node (agreement.received isHome alike sent)
    ((PeerPath.clientOf (Address.normalize home.address)).url name key) Client.mostRedirects
  exact ⟨_, fetch_responded hops sent lands asked⟩

/-- A fetch from the owner gives a result, after at most one lookup there, and leaves nobody
waiting. -/
theorem exists_fetch {home : Setup} (isHome : setups[owner]? = some home)
    (owns : (Pool.ringOf replicas peers).owner? key = some (Address.normalize home.address))
    (alike : Alike (build setups []) cluster) (computes : cluster.Computes name function)
    (calm : ∀ place group, cluster.group? owner place = some group → group.name = name →
      group.callers = []) {url : Url}
    (sent : Transport.target
      ((PeerPath.clientOf (Address.normalize home.address)).url name key) = .ok url) (hops : Nat) :
    ∃ place times result,
      fetch (hops + 2) cluster (PeerPath.clientOf (Address.normalize home.address)) name key =
        ((cluster.start owner place key times).1,
          .request url :: loadsOf owner name (cluster.start owner place key times).2, some result) ∧
      (times = 0 ∨ home.node.registry.number? name = some place) ∧
      (∀ value, PeerPath.Stands name → PeerPath.Stands key → function key = .ok value →
        times = 1 ∧ result = .ok value) ∧
      ∀ places, CalmAt places cluster → CalmAt places (cluster.start owner place key times).1 := by
  by_cases stands : PeerPath.Stands name ∧ PeerPath.Stands key
  · obtain ⟨place, result, leads, fetched, isValue, calmAsked⟩ :=
      agreement.fetch_stands isHome owns alike computes calm stands sent hops
    exact ⟨place, 1, result, fetched, .inr leads,
      fun value _ _ computed => ⟨rfl, isValue value computed⟩, calmAsked⟩
  · obtain ⟨result, fetched⟩ := agreement.fetch_falls isHome alike stands sent (hops + 1)
    exact ⟨0, 0, result, fetched, .inl rfl,
      fun _ nameStands keyStands => absurd ⟨nameStands, keyStands⟩ stands, fun _ => id⟩

end Agreement

/-! ## The two ways of lookups -/

/-- How lookups of a key go, so many at once, in a group in which nobody waits, if the key
is owned by a node. -/
inductive Looking (function : String → Except String Octets) (home : Setup) (owner : Nat)
    (name key : String) (cluster : Cluster) (index number : Nat) :
    Nat → Cluster → List Sight → Prop where
  /-- They end where they are. -/
  | alone (count : Nat)
      (isLocal : count = 0 ∨ ∀ group, cluster.group? index number = some group →
        group.world.IsLocal key) :
      Looking function home owner name key cluster index number count
        (cluster.start index number key count).1
        (loadsOf index name (cluster.start index number key count).2)
  /-- They wait for the owner, who looks the key up, or refuses to. -/
  | fetched (count place times : Nat) (url : Url) (outcome : Outcome)
      (asked finished : Cluster × List (Notice Call Result))
      (isAsked : asked =
        (cluster.start index number key (count + 1)).1.start owner place key times)
      (isFinished : finished = asked.1.step index number (.finish key outcome))
      (differs : index ≠ owner)
      (received : cluster.recipient url.authority = .node owner)
      (isTrue : GroupState.IsTrue function key outcome)
      (asks : times = 0 ∨ home.node.registry.number? name = some place)
      (succeeds : ∀ value, PeerPath.Stands name → PeerPath.Stands key →
        function key = .ok value → times = 1 ∧ outcome.result? = some (.ok value)) :
      Looking function home owner name key cluster index number (count + 1) finished.1
        ((.request url :: loadsOf owner name asked.2) ++ loadsOf index name finished.2)

section Looking

variable {setups : List Setup} {peers : List String} {replicas : Nat} {name key : String}
  {function : String → Except String Octets} {cluster : Cluster} {index number owner : Nat}
  {group : Group}

/-- No lookups at all leave the cluster as it is. -/
theorem lookups_nobody (found : cluster.group? index number = some group)
    (nobody : group.callers = []) (key : String) (hops : Nat) :
    lookups (hops + 1) cluster index number key 0 = (cluster, [], []) := by
  have noResults : inOrder (resultsOf []) = [] := by
    rw [inOrder, resultsOf, List.filterMap_nil, Ascending.Ascends.ofList_eq List.Pairwise.nil]
    rfl
  rw [lookups, start, awaited?_of_nobody found nobody]
  dsimp only
  rw [noResults]
  rfl

/-- Where nobody waits, all lookups end, in one of these ways, and nobody waits
afterwards. -/
theorem Agreement.looking (agreement : Agreement setups peers replicas name function)
    {home : Setup} (isHome : setups[owner]? = some home)
    (owns : (Pool.ringOf replicas peers).owner? key = some (Address.normalize home.address))
    (alike : Alike (build setups []) cluster) (computes : cluster.Computes name function)
    (calm : CalmAt (Serves setups name) cluster)
    (found : cluster.group? index number = some group) (isName : group.name = name)
    (count hops : Nat) :
    ∃ next sights, lookups (hops + 3) cluster index number key count =
        (next, sights, List.replicate count (Source.answer function key)) ∧
      Looking function home owner name key cluster index number count next sights ∧
      CalmAt (Serves setups name) next := by
  have nobody := calm index number group found (alike.serves found isName)
  have rests := computes.rests found isName
  rcases group.world.isLocal_or_sends key with isLocal | ⟨peer, sends⟩
  · have looked := lookups_local found rests nobody isLocal count (hops + 2)
    rw [← notices_start found] at looked
    refine ⟨_, _, looked, .alone count (.inr fun other isOther => ?_),
      calm.start_local found rests nobody isLocal count⟩
    rw [found] at isOther
    exact Option.some.inj isOther ▸ isLocal
  cases count with
  | zero => exact ⟨_, _, lookups_nobody found nobody key (hops + 2), .alone 0 (.inl rfl), calm⟩
  | succ count =>
      obtain ⟨differs, isPeer, url, sent⟩ :=
        agreement.exists_target isHome owns alike found isName sends
      have plain := agreement.plain home (List.mem_of_getElem? isHome)
      have started := (computes.start index number key (count + 1)).1
      have alikeStarted := alike.trans started.alike
      have received := agreement.received isHome alikeStarted sent
      have elsewhere := calm.start_elsewhere index number key (count + 1)
      have calmOwner : ∀ place group,
          (cluster.start index number key (count + 1)).1.group? owner place = some group →
            group.name = name → group.callers = [] := by
        intro place other present isOther
        exact elsewhere owner place other present
          ⟨alikeStarted.serves present isOther, fun same => differs same.1.symm⟩
      obtain ⟨place, times, result, fetched, asks, succeeds, calmAsked⟩ :=
        agreement.exists_fetch isHome owns alikeStarted started.computes calmOwner sent hops
      have honest := ((looksUp_and_fetches name function (hops + 2)).2 _ _ name key
        started.computes plain sends.named).2
      rw [fetched] at honest
      have isTrue : GroupState.IsTrue function key (outcomeOf result) := fun value isValue =>
        honest rfl result rfl value (Option.some.inj ((result?_outcomeOf result).symm.trans isValue))
      have same : ((cluster.start index number key (count + 1)).1.start owner place key
          times).1.group? index number = some (group.run (Group.lookups key (count + 1))).1 := by
        rw [group?_start_other fun isOwner => differs isOwner.1, group?_started found]
      rw [isPeer] at sends
      obtain ⟨looked, left⟩ := lookups_sends found rests nobody sends fetched same isTrue
      refine ⟨_, _, looked, .fetched count place times url (outcomeOf result) _ _ rfl rfl differs
        (started.alike.symm.recipients _ ▸ received) isTrue asks ?_, (calmAsked _ elsewhere).step left⟩
      intro value nameStands keyStands computed
      obtain ⟨once, isValue⟩ := succeeds value nameStands keyStands computed
      exact ⟨once, by rw [isValue]; rfl⟩

end Looking

end RingCache.Cluster
