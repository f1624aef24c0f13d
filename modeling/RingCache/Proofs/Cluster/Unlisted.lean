import RingCache.Proofs.Cluster.Reconfiguration
import RingCache.Proofs.Group.Seclusion
import RingCache.Proofs.Pool.Spellings

/-!
# Nodes that are told of nobody

A list of peers in a variable may name nobody: the variable is not set, its octets are no text, or
there are only commas and blanks in it (`Config.ListsNobody`). Then the node takes itself for its
only peer, by the very text of its own address. Whatever this text is, it has one normal form: the
pool has it as the node's own address, and the ring has no other owner, or none at all if nothing is
left of it. So the pool picks nobody (`Pool.pick?_own`).

The group of such a node asks this pool until the node is given other peers. Whatever happens in the
cluster till then, the node keeps to itself (`Cluster.unlisted_node_keeps_to_itself`).
-/

namespace RingCache

open Http

/-! ## Variables that name nobody -/

namespace Config

variable {environment : Environment} {text : String}

/-- Whether a text has commas and blanks, and nothing else. -/
def IsBare (text : String) : Prop :=
  ∀ character ∈ text.toList, character = ',' ∨ Blank.isBlank character = true

instance (text : String) : Decidable (IsBare text) := List.decidableBAll _ _

/-- Whether the list of peers in an environment names nobody. -/
inductive ListsNobody (environment : Environment) : Prop where
  /-- There is no list. -/
  | unset (isUnset : environment "PEERS" = none) : ListsNobody environment
  /-- Its octets are no text. -/
  | unread (octets : Octets) (set : environment "PEERS" = some octets)
      (noText : Utf8.decode? octets = none) : ListsNobody environment
  /-- There is nothing between the commas. -/
  | bare (text : String) (set : environment "PEERS" = some (Utf8.encode text))
      (isBare : IsBare text) : ListsNobody environment

/-- A piece has characters of the whole, and no separator. -/
theorem mem_of_mem_splitOn {separator : Char} {characters piece : List Char}
    (mem : piece ∈ characters.splitOn separator) :
    ∀ character ∈ piece, character ∈ characters ∧ character ≠ separator := by
  induction characters generalizing piece with
  | nil =>
      rw [List.splitOn_nil] at mem
      rw [List.mem_singleton.mp mem]
      exact nofun
  | cons first rest inductionHypothesis =>
      have later : ∀ other ∈ rest.splitOn separator, ∀ character ∈ other,
          character ∈ first :: rest ∧ character ≠ separator :=
        fun other otherMem character within =>
          (inductionHypothesis otherMem character within).imp_left (List.mem_cons_of_mem first)
      rw [List.splitOn_cons_eq_if_modifyHead] at mem
      split at mem
      · rcases List.mem_cons.mp mem with rfl | others
        · exact nofun
        · exact later piece others
      · rename_i differs
        obtain ⟨head, others, parted⟩ :=
          List.exists_cons_of_ne_nil (List.splitOn_ne_nil separator rest)
        rw [parted] at mem later
        rcases List.mem_cons.mp mem with rfl | listed
        · refine List.forall_mem_cons.mpr ⟨⟨List.mem_cons_self, ?_⟩, later head List.mem_cons_self⟩
          simpa using differs
        · exact later piece (List.mem_cons_of_mem head listed)

/-- Commas and blanks are a list of nobody. -/
theorem IsBare.splitPeers_eq (bare : IsBare text) : splitPeers text = [] := by
  refine List.filter_eq_nil_iff.mpr fun peer mem => ?_
  obtain ⟨piece, listed, rfl⟩ := List.mem_map.mp mem
  obtain ⟨characters, parted, rfl⟩ := List.mem_map.mp listed
  have blank : Address.IsBlank (String.ofList characters) := by
    intro character within
    rw [String.toList_ofList] at within
    obtain ⟨present, noComma⟩ := mem_of_mem_splitOn parted character within
    exact (bare character present).resolve_left noComma
  rw [Blank.trim, blank.trimBoth_eq]
  decide

/-- A node that is told of nobody is its own only peer. -/
theorem ListsNobody.peers_eq (lists : ListsNobody environment) :
    (ofEnvironment environment).peers = [(ofEnvironment environment).address] := by
  have nobody : (text? environment "PEERS").elim [] splitPeers = [] := by
    cases lists with
    | unset isUnset => rw [text?, isUnset]; rfl
    | unread octets set noText => rw [text?, set, Option.bind_some, noText]; rfl
    | bare text set isBare => rw [text?_eq set]; exact isBare.splitPeers_eq
  simp only [ofEnvironment, peersOr, nobody]

end Config

/-! ## Pools and groups of such nodes -/

/-- A pool picks nobody if it has been told of the node alone, whatever the text of its address. -/
theorem Pool.pick?_own (self basePath : String) (replicas : Nat) (transport : Transport)
    (key : String) : (among [self] basePath replicas transport self).pick? key = none := by
  refine Option.eq_none_iff_forall_ne_some.mpr fun client picked => ?_
  rw [among, pick?_setPeers, Option.bind_eq_some_iff] at picked
  obtain ⟨owner, found, chosen⟩ := picked
  obtain ⟨_, peer, listed, isOwner⟩ := mem_addresses.mp ((ringOf_holds _ _).owner_mem found)
  rw [List.mem_singleton.mp listed] at isOwner
  have isSelf : owner = (create self basePath replicas transport).self := isOwner.symm
  rw [if_pos isSelf] at chosen
  cases chosen

namespace Node

/-- The pool of a configured node. -/
def poolOf (config : Config) (transport : Transport) : Pool :=
  .among config.peers config.basePath config.replicas transport config.address

/-- The only group of a configured node, which asks the pool. -/
def groupOf (config : Config) (source : Source) (transport : Transport) : Group :=
  { world := (Group.create config.group config.budget source).world.equip
      (some (poolOf config transport).picker) }

/-- A configured node has this pool and this group. -/
theorem ofConfig_parts (config : Config) (source : Source) (transport : Transport) :
    (ofConfig config source transport).pool = some (poolOf config transport) ∧
      (ofConfig config source transport).registry.groups = [groupOf config source transport] :=
  ⟨rfl, rfl⟩

variable {environment : Config.Environment}

/-- If it is told of nobody, the pool picks nobody. -/
theorem pick?_poolOf (lists : Config.ListsNobody environment) (transport : Transport)
    (key : String) : (poolOf (.ofEnvironment environment) transport).pick? key = none := by
  rw [poolOf, lists.peers_eq]
  exact Pool.pick?_own ..

/-- Then nobody is named to the group. -/
theorem secluded_groupOf (lists : Config.ListsNobody environment) (source : Source)
    (transport : Transport) :
    (groupOf (.ofEnvironment environment) source transport).world.Secluded where
  asks := rfl
  nobody key := by
    have picks : (groupOf (.ofEnvironment environment) source transport).world.owner? key =
        (poolOf (.ofEnvironment environment) transport).picker key := rfl
    rw [picks, Pool.picker, pick?_poolOf lists, Option.map_none]
  empty := rfl

end Node

/-! ## Nodes that keep to themselves -/

namespace Cluster

/-- Whether all groups of the node with a number have come from a group without lookups, while
nobody has changed its picker. -/
def DescendAt (index : Nat) (world : GroupState) (cluster : Cluster) : Prop :=
  ∀ number group, cluster.group? index number = some group → group.Descends world

/-- Whether they have come so from those of an earlier cluster. -/
def ContinueAt (index : Nat) (past cluster : Cluster) : Prop :=
  ∀ number group, cluster.group? index number = some group →
    ∃ before, past.group? index number = some before ∧ before.Continues group

/-- Whether a group of the node with a number has a result for a key. -/
def SuppliesAt (index number : Nat) (world : GroupState) (key : String) (result : Result)
    (cluster : Cluster) : Prop :=
  ∃ group, cluster.group? index number = some group ∧ group.Supplies world key result

/-- Whether the node with a number keeps to itself: it and its groups ask the pool, no event of a
group asks a peer, and lookups and requests send nothing on the network and have their results from
the group. -/
structure Secluded (index : Nat) (pool : Pool) (world : GroupState) (cluster : Cluster) : Prop where
  /-- The node has the pool, and its groups ask it. -/
  told : AsksAt index pool (fun _ => True) cluster
  /-- Whatever happens to a group of the node, no peer is asked. -/
  unasked : ∀ number event id peer name key,
    .called id (.fetch peer name key) ∉ (cluster.step index number event).2
  /-- Lookups at the node send no request, and return what the group has. -/
  looked : ∀ hops number key count,
    let looked := lookups hops cluster index number key count
    Sight.requests looked.2.1 = [] ∧
      ∀ result ∈ looked.2.2, SuppliesAt index number world key result cluster
  /-- If the source answers at once, a lookup in a group of the node does return. -/
  returns : world.source.IsPrompt → ∀ hops number group key,
    cluster.group? index number = some group →
      ∃ result, (lookups (hops + 1) cluster index number key 1).2.2 = [result]
  /-- The node sends no request to answer one. -/
  unsent : ∀ time request, Sight.requests (cluster.serve index time request).2.1 = []
  /-- And it answers one that needs a lookup with what the group has. -/
  answered : ∀ node time request number key answer response, cluster.node? index = some node →
    node.decide time request = .lookup number key answer →
    (cluster.serve index time request).2.2 = some response →
      ∃ result, response = answer result ∧ SuppliesAt index number world key result cluster

variable {cluster next past : Cluster} {index number : Nat} {world : GroupState} {pool : Pool}

theorem keptByEvents_descendAt (index : Nat) (asks : world.picker.isSome = true) :
    KeptByEvents (DescendAt index world) := by
  intro cluster other number event descend own group found
  obtain ⟨before, present, rfl | ⟨_, _, rfl⟩⟩ := exists_group_of_step found
  · exact descend own group present
  · exact (descend own before present).step asks event

theorem keptByEvents_continueAt (index : Nat) (past : Cluster)
    (asks : world.picker.isSome = true) :
    KeptByEvents fun cluster => DescendAt index world cluster ∧ ContinueAt index past cluster := by
  rintro cluster other number event ⟨descend, continues⟩
  refine ⟨keptByEvents_descendAt index asks cluster other number event descend,
    fun own group found => ?_⟩
  obtain ⟨before, present, rfl | ⟨_, _, rfl⟩⟩ := exists_group_of_step found
  · exact continues own group present
  · obtain ⟨origin, was, came⟩ := continues own before present
    exact ⟨origin, was, came.trans ((descend own before present).continues_step asks event)⟩

/-- Groups of a node come from where they came from until the node is given other peers. -/
theorem DescendAt.later (descend : DescendAt index world cluster)
    (asks : world.picker.isSome = true) (later : Later index cluster next) :
    DescendAt index world next := by
  refine (keptByEvents_descendAt index asks).later ?_ descend later
  intro before other changed differs still number group found
  refine still number group ?_
  rw [group?, node?_setNode] at found
  simp only [if_neg (Ne.symm differs), Option.map_id'] at found
  exact found

/-- Nobody at such a node waits for a peer. -/
theorem DescendAt.awaited?_eq_none (descend : DescendAt index world cluster)
    (secluded : world.Secluded) (number : Nat) (key : String) :
    cluster.awaited? index number key = none := by
  rw [awaited?_eq, Option.bind_eq_none_iff]
  intro group found
  split
  · rename_i peer fetching
    exact absurd fetching ((descend number group found).stage?_ne secluded key peer)
  · rfl

/-- No event of its groups asks a peer. -/
theorem DescendAt.unasked (descend : DescendAt index world cluster) (secluded : world.Secluded)
    (event : Group.Event) (id : Nat) (peer : Peer) (name key : String) :
    .called id (.fetch peer name key) ∉ (cluster.step index number event).2 := by
  intro called
  obtain ⟨group, found, noticed⟩ := exists_group_of_notice called
  have descends := descend number group found
  exact (descends.seen secluded.asks descends.continues (.refl group) noticed).ne_fetch secluded rfl

/-- A lookup that returns in the event of another one of its key has what the group has that was
there before. -/
theorem DescendAt.supplies (descend : DescendAt index world past) (secluded : world.Secluded)
    (still : DescendAt index world cluster) (continues : ContinueAt index past cluster)
    {id : Nat} {key other : String} {result : Result}
    (ended : .ended id other (.returned result) ∈ (cluster.step index number (.lookup key)).2) :
    SuppliesAt index number world key result past := by
  obtain ⟨group, found, noticed⟩ := exists_group_of_notice ended
  obtain ⟨before, was, came⟩ := continues number group found
  have descends := still number group found
  have seen := descends.seen secluded.asks (descend number before was).continues came noticed
  obtain ⟨rfl, _⟩ := (descends.settled.returns_step
    (.lookup : Group.Asks key _ (.lookup key))).2 id other result noticed
  exact ⟨before, was, seen.supplies secluded⟩

/-- Lookups at such a node are what starts with them. -/
theorem DescendAt.lookups_eq (descend : DescendAt index world cluster) (secluded : world.Secluded)
    (hops number : Nat) (key : String) (count : Nat) :
    let started := cluster.start index number key count
    lookups (hops + 1) cluster index number key count =
      (started.1, loadsOf index (cluster.groupName index number) started.2,
        inOrder (resultsOf started.2)) := by
  have started := (keptByEvents_descendAt index secluded.asks).start descend index number key count
  exact lookups_of_idle (descend.awaited?_eq_none secluded number key)
    (started.awaited?_eq_none secluded number key) hops

/-- So they send nothing, and return what the group has. -/
theorem DescendAt.looked (descend : DescendAt index world cluster) (secluded : world.Secluded)
    (hops number : Nat) (key : String) (count : Nat) :
    let looked := lookups hops cluster index number key count
    Sight.requests looked.2.1 = [] ∧
      ∀ result ∈ looked.2.2, SuppliesAt index number world key result cluster := by
  cases hops with
  | zero =>
      rw [lookups]
      exact ⟨rfl, List.forall_mem_nil _⟩
  | succ hops =>
      rw [descend.lookups_eq secluded]
      refine ⟨requests_loadsOf, fun result mem => ?_⟩
      obtain ⟨id, other, ended⟩ := exists_ended_of_mem mem
      -- Other lookups may have started in between, so that the group may not be as it is now.
      have now : DescendAt index world cluster ∧ ContinueAt index cluster cluster :=
        ⟨descend, fun number group found => ⟨group, found, .refl group⟩⟩
      obtain ⟨earlier, ⟨still, continues⟩, noticed⟩ :=
        (keptByEvents_continueAt index cluster secluded.asks).exists_step now ended
      exact descend.supplies secluded still continues noticed

/-- And a lookup returns if the source answers at once. -/
theorem DescendAt.returns (descend : DescendAt index world cluster) (secluded : world.Secluded)
    (prompt : world.source.IsPrompt) {group : Group}
    (found : cluster.group? index number = some group) (hops : Nat) (key : String) :
    ∃ result, (lookups (hops + 1) cluster index number key 1).2.2 = [result] := by
  have descends := descend number group found
  obtain ⟨result, gives⟩ := descends.exists_gives secluded prompt key
  refine ⟨result, ?_⟩
  rw [descend.lookups_eq secluded, start_one]
  exact results_of_gives found descends.settled gives

/-- Such a node that asks its pool keeps to itself. -/
theorem DescendAt.secluded (descend : DescendAt index world cluster) (secluded : world.Secluded)
    (told : AsksAt index pool (fun _ => True) cluster) : Secluded index pool world cluster where
  told := told
  unasked _ event id peer name key := descend.unasked secluded event id peer name key
  looked := descend.looked secluded
  returns prompt hops _ _ key found := descend.returns secluded prompt found hops key
  unsent time request := by
    obtain ⟨node, present, _⟩ := told
    cases decided : node.decide time request with
    | respond response => simp only [serve, present, decided, Sight.requests, List.filterMap_nil]
    | replacePeers peers => simp only [serve, present, decided, Sight.requests, List.filterMap_nil]
    | lookup number key answer =>
        simp only [serve, present, decided, (descend.looked secluded cluster.hops number key 1).1]
  answered node time request number key answer response present decided answered := by
    simp only [serve, present, decided] at answered
    obtain ⟨result, isFirst, rfl⟩ := Option.map_eq_some_iff.mp answered
    have supplied := (descend.looked secluded cluster.hops number key 1).2
    exact ⟨result, rfl, supplied result (List.mem_of_mem_head? isFirst)⟩

/-- A node never uses the network if its list of peers is not set, is no text, or has nothing but
commas and blanks in it, whatever its own address and all its other variables are. Its pool picks
nobody for any key, and its only group asks this pool. In every run of the group, whatever the calls
of the source come to and whoever is cancelled, nobody asks a peer until the picker changes, and
whoever returns has the failure for want of a key, the value that is kept, or what a call of the
source has given. If the source never waits, who has come until then asks nobody later either. In
every cluster with this node, until the node is given other peers, it keeps to itself. -/
theorem unlisted_node_keeps_to_itself {environment : Config.Environment}
    (lists : Config.ListsNobody environment) (source : Source) (transport : Transport) :
    let node := Node.ofConfig (.ofEnvironment environment) source transport
    ∃ pool group, node.pool = some pool ∧ node.registry.groups = [group] ∧
      group.world.picker = some pool.picker ∧ (∀ key, pool.pick? key = none) ∧
      (∀ run : GroupRun, run.state 0 = group → ∀ index, run.QuietBefore index →
        run.Inward index ∧
        ((∀ calls key, source.load calls key ≠ .held) → ∀ id < (run.state index).nextCaller,
          ∀ time peer name key, .called id (.fetch peer name key) ∉ run.notices time)) ∧
      ∀ cluster index, cluster.node? index = some node → ∀ next, Later index cluster next →
        Secluded index pool group.world next := by
  intro node
  let config := Config.ofEnvironment environment
  let own := Node.groupOf config source transport
  obtain ⟨isPool, groups⟩ := Node.ofConfig_parts config source transport
  have secluded : own.world.Secluded := Node.secluded_groupOf lists source transport
  refine ⟨_, own, isPool, groups, rfl, Node.pick?_poolOf lists transport,
    fun run begins index quiet => ?_, fun cluster index present next later => ?_⟩
  · have isWorld : run.world = own.world := congrArg Flight.world begins
    have runSecluded : run.world.Secluded := isWorld ▸ secluded
    refine ⟨runSecluded.inward quiet, fun replies id came time peer name key => ?_⟩
    refine runSecluded.never_asks quiet ?_ came time peer name key
    rw [isWorld]
    exact replies
  · have only : ∀ (number : Nat) group, node.registry.groups[number]? = some group →
        group = own := by
      intro number group found
      have mem := List.mem_of_getElem? found
      rw [groups] at mem
      exact List.mem_singleton.mp mem
    have asks : node.Asks (Node.poolOf config transport) fun _ => True :=
      ⟨isPool, fun number group found _ => only number group found ▸ rfl⟩
    have descend : DescendAt index own.world cluster := by
      intro number group found
      rw [group?, present] at found
      rw [only number group found]
      exact Group.descends_self own.world
    exact (descend.later secluded.asks later).secluded secluded
      (AsksAt.later ⟨node, present, asks⟩ later)

/-- A node with blanks and slashes in its address, and commas instead of peers, answers with what it
has. -/
theorem blank_list_keeps_node_to_itself :
    let environment : Config.Environment := fun name =>
      if name = "PEERS" then some (Utf8.encode " ,,\t, ")
      else if name = "SELF_ADDR" then some (Utf8.encode "\thttp://a:1//") else none
    let node := Node.ofConfig (.ofEnvironment environment) .scores .online
    let cluster : Cluster := ⟨[⟨node, none⟩], []⟩
    Config.ListsNobody environment ∧ cluster.node? 0 = some node ∧
      ∃ pool group, node.pool = some pool ∧ node.registry.groups = [group] ∧
        (∀ key, pool.pick? key = none) ∧ Secluded 0 pool group.world cluster ∧
        ∀ hops, ∃ result, (lookups (hops + 1) cluster 0 0 "Tom" 1).2.2 = [result] := by
  intro environment node cluster
  have lists : Config.ListsNobody environment := .bare " ,,\t, " rfl (by decide)
  have present : cluster.node? 0 = some node := rfl
  obtain ⟨pool, group, isPool, groups, _, unpicked, _, keeps⟩ :=
    unlisted_node_keeps_to_itself lists .scores .online
  have secluded : Secluded 0 pool group.world cluster := keeps cluster 0 present cluster .now
  have found : cluster.group? 0 0 = some group := congrArg (·[0]?) groups
  have prompt : group.world.source.IsPrompt := by
    have isGroup : [group] = [Node.groupOf (.ofEnvironment environment) .scores .online] :=
      groups.symm.trans (Node.ofConfig_parts _ _ _).2
    rw [List.singleton_inj.mp isGroup]
    exact Source.isPrompt_ofFunction _
  exact ⟨lists, present, pool, group, isPool, groups, unpicked, secluded,
    fun hops => secluded.returns prompt hops 0 group "Tom" found⟩

end Cluster

end RingCache
