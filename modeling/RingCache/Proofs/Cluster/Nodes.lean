import RingCache.Proofs.Ascending
import RingCache.Proofs.Group.Functions
import RingCache.Proofs.Pool.Ownership

/-!
# The nodes of a cluster

A node is built from its address, its peers and its groups (`Cluster.Setup`). After that
nothing but events changes it, and an event changes one group of one node
(`Cluster.group?_step`): which group a name leads to, who has which authority and which
base path stay as they were built.
-/

namespace RingCache

/-! ## Registries -/

namespace Registry

variable {registry : Registry} {name : String} {number : Nat} {event : Group.Event}

/-- The registry in which groups with names, budgets and sources have been created. -/
def ofGroups (groups : List (String × Nat × Source)) : Registry :=
  groups.foldl (fun registry group => registry.create group.1 group.2.1 group.2.2) {}

/-- Whether a name leads to a group of this name. -/
def Indexed (registry : Registry) : Prop :=
  ∀ name number, registry.number? name = some number →
    ∃ group, registry.groups[number]? = some group ∧ group.name = name

theorem number?_create (registry : Registry) (name : String) (budget : Nat) (source : Source)
    (other : String) : (registry.create name budget source).number? other =
      if other = name then some registry.groups.length else registry.number? other :=
  Ascending.lookup_insert name registry.groups.length registry.index other

theorem Indexed.create (indexed : registry.Indexed) (name : String) (budget : Nat)
    (source : Source) : (registry.create name budget source).Indexed := by
  intro other number found
  rw [number?_create] at found
  split at found
  · rename_i isName
    rw [← Option.some.inj found, isName]
    exact ⟨Group.create name budget source, by simp [Registry.create], rfl⟩
  · obtain ⟨group, listed, sameName⟩ := indexed other number found
    have inside : number < registry.groups.length := (List.getElem?_eq_some_iff.mp listed).1
    refine ⟨group, ?_, sameName⟩
    rw [Registry.create, List.getElem?_append_left inside, listed]

/-- Every group of such a registry is one of those that were created, every name leads
to a group of this name, and every name that was used leads to a group. -/
theorem ofGroups_spec (groups : List (String × Nat × Source)) :
    (ofGroups groups).Indexed ∧
      (∀ group ∈ (ofGroups groups).groups, ∃ entry ∈ groups,
        group = Group.create entry.1 entry.2.1 entry.2.2) ∧
      ∀ entry ∈ groups, ((ofGroups groups).number? entry.1).isSome := by
  induction groups using List.reverseRecOn with
  | nil => exact ⟨nofun, nofun, nofun⟩
  | append_singleton groups entry inductionHypothesis =>
      obtain ⟨indexed, created, used⟩ := inductionHypothesis
      have last : ofGroups (groups ++ [entry]) =
          (ofGroups groups).create entry.1 entry.2.1 entry.2.2 := by
        rw [ofGroups, List.foldl_append]
        rfl
      rw [last]
      refine ⟨indexed.create _ _ _, fun group mem => ?_, fun other mem => ?_⟩
      · rcases List.mem_append.mp mem with before | added
        · obtain ⟨other, listed, isGroup⟩ := created group before
          exact ⟨other, List.mem_append_left _ listed, isGroup⟩
        · exact ⟨entry, by simp, List.mem_singleton.mp added⟩
      · rw [number?_create]
        split
        · rfl
        · rename_i differs
          rcases List.mem_append.mp mem with before | added
          · exact used other before
          · rw [List.mem_singleton.mp added] at differs
            exact absurd rfl differs

theorem groups_step (registry : Registry) (number : Nat) (event : Group.Event) (other : Nat) :
    (registry.step number event).1.groups[other]? =
      registry.groups[other]?.map fun group =>
        if other = number then (group.step event).1 else group := by
  rw [step]
  cases found : registry.groups[number]? with
  | none =>
      cases listed : registry.groups[other]? with
      | none => rfl
      | some group =>
          have differs : other ≠ number := by
            rintro rfl
            rw [found] at listed
            cases listed
          rw [Option.map_some, if_neg differs]
  | some group =>
      dsimp only
      by_cases same : other = number
      · subst same
        have inside := (List.getElem?_eq_some_iff.mp found).1
        rw [List.getElem?_set_self inside, found, Option.map_some, if_pos rfl]
      · rw [List.getElem?_set_ne (Ne.symm same)]
        simp [same]

theorem notices_step (registry : Registry) (number : Nat) (event : Group.Event) :
    (registry.step number event).2 =
      registry.groups[number]?.elim [] fun group => (group.step event).2 := by
  rw [step]
  cases registry.groups[number]? <;> rfl

theorem index_step (registry : Registry) (number : Nat) (event : Group.Event) :
    (registry.step number event).1.index = registry.index := by
  rw [step]
  cases registry.groups[number]? <;> rfl

end Registry

/-! ## Groups that ask the pool -/

namespace Node

variable {node : Node} {pool : Pool}

/-- What is asked to ask a pool keeps all but the one whom it asks. -/
theorem enlist_parts (node : Node) (number : Nat) :
    (node.enlist number).pool = node.pool ∧ (node.enlist number).basePath = node.basePath ∧
      (node.enlist number).registry.index = node.registry.index := by
  rw [enlist]
  split
  · split <;> exact ⟨rfl, rfl, rfl⟩
  · exact ⟨rfl, rfl, rfl⟩

/-- One group is offered the pool. -/
theorem groups_enlist (isPool : node.pool = some pool) (number other : Nat) :
    (node.enlist number).registry.groups[other]? = node.registry.groups[other]?.map fun group =>
      if other = number then (group.register pool.picker).toOption.getD group else group := by
  rw [enlist, isPool]
  by_cases same : other = number
  · subst same
    cases found : node.registry.groups[other]? with
    | none => simp [found]
    | some group =>
        have inside := (List.getElem?_eq_some_iff.mp found).1
        dsimp only
        cases offered : group.register pool.picker with
        | error cause => simp [found, offered, Except.toOption]
        | ok next => simp [inside, offered, Except.toOption]
  · simp only [if_neg same, Option.map_id']
    split
    · split
      · rfl
      · simp [List.getElem?_set_ne (Ne.symm same)]
    · rfl

/-- The first groups, up to a number, are offered the pool one after the other. -/
theorem foldl_enlist (isPool : node.pool = some pool) (count : Nat) :
    let next := (List.range count).foldl enlist node
    next.pool = some pool ∧ next.basePath = node.basePath ∧
      next.registry.index = node.registry.index ∧
      ∀ other, next.registry.groups[other]? = node.registry.groups[other]?.map fun group =>
        if other < count then (group.register pool.picker).toOption.getD group else group := by
  induction count with
  | zero => exact ⟨isPool, rfl, rfl, fun other => by simp⟩
  | succ count inductionHypothesis =>
      obtain ⟨toldPool, sameBase, sameIndex, offered⟩ := inductionHypothesis
      intro next
      have isNext : next = ((List.range count).foldl enlist node).enlist count := by
        simp only [next, List.range_succ, List.foldl_concat]
      rw [isNext]
      obtain ⟨pools, bases, indices⟩ := enlist_parts ((List.range count).foldl enlist node) count
      refine ⟨pools.trans toldPool, bases.trans sameBase, indices.trans sameIndex, fun other => ?_⟩
      rw [groups_enlist toldPool, offered, Option.map_map]
      refine Option.map_congr fun group _ => ?_
      rcases Nat.lt_trichotomy other count with less | rfl | greater
      · simp [less, Nat.ne_of_lt less, Nat.lt_succ_of_lt less]
      · simp
      · simp [Nat.not_lt.mpr (Nat.le_of_lt greater), Nat.ne_of_gt greater,
          Nat.not_lt.mpr (Nat.succ_le_of_lt greater)]

/-- Every group is offered the pool, and nothing else changes. -/
theorem enlistAll_parts (isPool : node.pool = some pool) :
    node.enlistAll.pool = some pool ∧ node.enlistAll.basePath = node.basePath ∧
      node.enlistAll.registry.index = node.registry.index ∧
      ∀ other : Nat, node.enlistAll.registry.groups[other]? =
        node.registry.groups[other]?.map fun group =>
          (group.register pool.picker).toOption.getD group := by
  obtain ⟨toldPool, sameBase, sameIndex, offered⟩ :=
    foldl_enlist isPool node.registry.groups.length
  refine ⟨toldPool, sameBase, sameIndex, fun other => (offered other).trans ?_⟩
  refine Option.map_congr fun group found => ?_
  rw [if_pos (List.getElem?_eq_some_iff.mp found).1]

/-- New peers change the groups that are listed to ask the pool. -/
theorem groups_setPeers (isPool : node.pool = some pool) (peers : List String) (number : Nat) :
    (node.setPeers peers).registry.groups[number]? = node.registry.groups[number]?.map fun group =>
      if node.askers.contains number then repick (pool.setPeers peers) group else group := by
  rw [setPeers, isPool]
  exact List.getElem?_mapIdx

end Node

/-! ## Clusters -/

namespace Cluster

/-- What a node is built from. -/
structure Setup where
  /-- The node's own address. -/
  address : String
  /-- The authority under which the network knows the node, if it does. -/
  authority : Option String
  /-- The addresses of its peers. -/
  peers : List String
  /-- How many ring positions each peer claims. -/
  replicas : Nat
  /-- The names, the budgets and the sources of its groups. -/
  groups : List (String × Nat × Source)

/-- The pool of a node with the default base path. -/
def Setup.pool (setup : Setup) : Pool :=
  .among setup.peers Address.defaultBasePath setup.replicas .online setup.address

/-- The pool of a node picks the owner of a key, unless this is the node itself. -/
theorem Setup.picker_of_owner {setup : Setup} {key address : String}
    (owns : (Pool.ringOf setup.replicas setup.peers).owner? key = some address) :
    setup.pool.picker key = if address = Address.normalize setup.address then none else
      some ((⟨address ++ Address.defaultBasePath⟩ : Client).peer .online) := by
  have normal : Address.basePath Address.defaultBasePath = Address.defaultBasePath := by decide
  rw [Pool.picker, Setup.pool, Pool.pick?_among owns, normal]
  split <;> rfl

/-- If there is one peer, all keys are its own. -/
theorem Setup.picker_of_alone {setup : Setup} {address : String}
    (alone : Pool.addresses setup.peers = [address]) (claim : 0 < setup.replicas) (key : String) :
    setup.pool.picker key = if address = Address.normalize setup.address then none else
      some ((⟨address ++ Address.defaultBasePath⟩ : Client).peer .online) := by
  have holds := Pool.ringOf_holds setup.replicas setup.peers
  rw [alone] at holds
  obtain ⟨owner, owns⟩ := holds.exists_owner claim List.mem_cons_self key
  rw [List.mem_singleton.mp (holds.owner_mem owns)] at owns
  exact Setup.picker_of_owner owns

/-- If there are no peers, no key is anybody's. -/
theorem Setup.picker_of_nobody {setup : Setup} (nobody : Pool.addresses setup.peers = [])
    (key : String) : setup.pool.picker key = none := by
  have unowned : (Pool.ringOf setup.replicas setup.peers).owner? key = none :=
    (Pool.ringOf_holds setup.replicas setup.peers).owner?_eq_none.mpr (.inr nobody)
  rw [Pool.picker, Setup.pool, Pool.among, Pool.pick?_setPeers]
  exact congrArg (Option.map _) (congrArg (Option.bind · _) unowned)

/-- The node. -/
def Setup.node (setup : Setup) : Node :=
  (({ registry := .ofGroups setup.groups } : Node).withPool setup.pool).enlistAll

/-- The nodes on a network with other hosts. -/
def build (setups : List Setup) (hosts : List (String × Host)) : Cluster where
  members := setups.map fun setup => ⟨setup.node, setup.authority⟩
  hosts := hosts

/-- A group of a node. -/
def group? (cluster : Cluster) (index number : Nat) : Option Group :=
  (cluster.node? index).bind fun node => node.registry.groups[number]?

/-- Lookups of a key, so many at once, in the group of a name at a node. -/
structure Query where
  /-- The number of the node. -/
  index : Nat
  /-- The name of the group. -/
  group : String
  /-- The key. -/
  key : String
  /-- How many lookups there are. -/
  count : Nat := 1

/-- What was seen of lookups, and their results. -/
structure Reading where
  /-- The lookups. -/
  query : Query
  /-- The requests, and the calls of sources. -/
  sights : List Sight
  /-- The results of the lookups that have ended. -/
  results : List Result

/-- Queries one after the other, but for those of nodes and groups that are not there. -/
def inquire (cluster : Cluster) : List Query → Cluster × List Reading
  | [] => (cluster, [])
  | query :: rest =>
      match cluster.get? query.index query.group query.key query.count with
      | none => cluster.inquire rest
      | some (next, sights, results) =>
          let others := next.inquire rest
          (others.1, ⟨query, sights, results⟩ :: others.2)

variable {cluster : Cluster} {index number : Nat}

theorem groupName_eq (cluster : Cluster) (index number : Nat) :
    cluster.groupName index number = (cluster.group? index number).elim "" Group.name := rfl

/-! ### How nodes are built -/

/-- A group of a node before anybody has looked a key up. -/
def Setup.group (setup : Setup) (entry : String × Nat × Source) : Group :=
  { Group.create entry.1 entry.2.1 entry.2.2 with
    world := { (Group.create entry.1 entry.2.1 entry.2.2).world with
      picker := some setup.pool.picker } }

theorem node?_build (setups : List Setup) (hosts : List (String × Host)) (index : Nat) :
    (build setups hosts).node? index = setups[index]?.map Setup.node := by
  rw [node?, build, List.getElem?_map, Option.map_map]
  rfl

/-- A new node has its pool and the default base path, its groups are those that were created,
each made to ask the pool, and its names lead to them. -/
theorem Setup.node_parts (setup : Setup) :
    setup.node.pool = some setup.pool ∧ setup.node.basePath = setup.pool.basePath ∧
      setup.node.registry.index = (Registry.ofGroups setup.groups).index ∧
      ∀ number : Nat, setup.node.registry.groups[number]? =
        (Registry.ofGroups setup.groups).groups[number]?.map fun group =>
          (group.register setup.pool.picker).toOption.getD group :=
  Node.enlistAll_parts rfl

@[simp] theorem Setup.pool_node (setup : Setup) : setup.node.pool = some setup.pool :=
  setup.node_parts.1

@[simp] theorem Setup.basePath_node (setup : Setup) :
    setup.node.basePath = Address.defaultBasePath := by
  have normal : Address.basePath Address.defaultBasePath = Address.defaultBasePath := by decide
  exact setup.node_parts.2.1.trans normal

theorem Setup.number?_node (setup : Setup) (name : String) :
    setup.node.registry.number? name = (Registry.ofGroups setup.groups).number? name := by
  rw [Registry.number?, setup.node_parts.2.2.1]
  rfl

/-- Every group of a new node was created with one of the entries, and asks the node's
pool. -/
theorem Setup.exists_entry (setup : Setup) {number : Nat} {group : Group}
    (found : setup.node.registry.groups[number]? = some group) :
    ∃ entry ∈ setup.groups, group = setup.group entry ∧
      (Registry.ofGroups setup.groups).groups[number]? =
        some (Group.create entry.1 entry.2.1 entry.2.2) := by
  rw [setup.node_parts.2.2.2] at found
  obtain ⟨created, listed, registered⟩ := Option.map_eq_some_iff.mp found
  obtain ⟨entry, mem, rfl⟩ :=
    (Registry.ofGroups_spec setup.groups).2.1 created (List.mem_of_getElem? listed)
  exact ⟨entry, mem, registered.symm, listed⟩

/-- On a new node, every name leads to a group of this name. -/
theorem Setup.indexed_node (setup : Setup) : setup.node.registry.Indexed := by
  intro name number found
  rw [setup.number?_node] at found
  obtain ⟨created, listed, sameName⟩ := (Registry.ofGroups_spec setup.groups).1 name number found
  have mapped : setup.node.registry.groups[number]? =
      some ((created.register setup.pool.picker).toOption.getD created) := by
    rw [setup.node_parts.2.2.2, listed]
    rfl
  obtain ⟨entry, _, isGroup, isCreated⟩ := setup.exists_entry mapped
  rw [listed] at isCreated
  refine ⟨_, mapped, ?_⟩
  rw [isGroup, ← sameName, Option.some.inj isCreated]
  rfl

/-- Every group of a new cluster was created with one of the entries of its node. -/
theorem exists_entry_build {setups : List Setup} {hosts : List (String × Host)} {group : Group}
    (found : (build setups hosts).group? index number = some group) :
    ∃ setup, setups[index]? = some setup ∧ ∃ entry ∈ setup.groups, group = setup.group entry := by
  obtain ⟨node, present, listed⟩ := Option.bind_eq_some_iff.mp found
  rw [node?_build] at present
  obtain ⟨setup, isSetup, rfl⟩ := Option.map_eq_some_iff.mp present
  obtain ⟨entry, mem, isGroup, _⟩ := setup.exists_entry listed
  exact ⟨setup, isSetup, entry, mem, isGroup⟩

/-! ### What an event changes -/

theorem node?_setNode (cluster : Cluster) (index : Nat) (node : Node) (other : Nat) :
    (cluster.setNode index node).node? other =
      (cluster.node? other).map fun before => if other = index then node else before := by
  rw [node?, node?, setNode, List.getElem?_modify]
  cases cluster.members[other]? with
  | none => rfl
  | some member =>
      by_cases same : other = index
      · simp [same]
      · simp [same, Ne.symm same]

theorem node?_step (cluster : Cluster) (index number : Nat) (event : Group.Event) (other : Nat) :
    (cluster.step index number event).1.node? other = (cluster.node? other).map fun node =>
      if other = index then { node with registry := (node.registry.step number event).1 }
      else node := by
  rw [step]
  cases found : cluster.node? index with
  | none =>
      cases present : cluster.node? other with
      | none => rfl
      | some node =>
          have differs : other ≠ index := by
            rintro rfl
            rw [found] at present
            cases present
          rw [Option.map_some, if_neg differs]
  | some node =>
      rw [node?_setNode]
      by_cases same : other = index
      · subst same
        simp [found]
      · simp [same]

/-- An event changes the group that it happens to, and no other one. -/
theorem group?_step (cluster : Cluster) (index number : Nat) (event : Group.Event)
    (otherIndex otherNumber : Nat) :
    (cluster.step index number event).1.group? otherIndex otherNumber =
      (cluster.group? otherIndex otherNumber).map fun group =>
        if otherIndex = index ∧ otherNumber = number then (group.step event).1 else group := by
  rw [group?, group?, node?_step]
  cases cluster.node? otherIndex with
  | none => rfl
  | some node =>
      rw [Option.map_some, Option.bind_some, Option.bind_some]
      by_cases same : otherIndex = index
      · rw [if_pos same, Registry.groups_step]
        simp [same]
      · rw [if_neg same]
        simp [same]

theorem group?_step_other {event : Group.Event} {other otherNumber : Nat}
    (differs : ¬ (other = index ∧ otherNumber = number)) :
    (cluster.step index number event).1.group? other otherNumber =
      cluster.group? other otherNumber := by
  rw [group?_step]
  simp only [if_neg differs, Option.map_id']

/-- A group after an event is as it was, or is the one that the event happened to. -/
theorem exists_group_of_step {event : Group.Event} {other otherNumber : Nat} {after : Group}
    (found : (cluster.step index number event).1.group? other otherNumber = some after) :
    ∃ before, cluster.group? other otherNumber = some before ∧
      (after = before ∨ other = index ∧ otherNumber = number ∧ after = (before.step event).1) := by
  rw [group?_step] at found
  obtain ⟨before, present, isAfter⟩ := Option.map_eq_some_iff.mp found
  refine ⟨before, present, ?_⟩
  split at isAfter
  · rename_i same
    exact .inr ⟨same.1, same.2, isAfter.symm⟩
  · exact .inl isAfter.symm

theorem notices_step (cluster : Cluster) (index number : Nat) (event : Group.Event) :
    (cluster.step index number event).2 =
      (cluster.group? index number).elim [] fun group => (group.step event).2 := by
  rw [step, group?]
  cases cluster.node? index with
  | none => rfl
  | some node => exact Registry.notices_step _ _ _

/-- What is seen of an event is seen of its group. -/
theorem exists_group_of_notice {event : Group.Event} {notice : Notice Call Result}
    (noticed : notice ∈ (cluster.step index number event).2) :
    ∃ group, cluster.group? index number = some group ∧ notice ∈ (group.step event).2 := by
  rw [notices_step] at noticed
  cases found : cluster.group? index number with
  | none =>
      rw [found] at noticed
      cases noticed
  | some group =>
      rw [found] at noticed
      exact ⟨group, rfl, noticed⟩

/-- New peers for a node are, for the groups that ask its pool, another pool to ask. -/
theorem group?_setPeers {node : Node} (present : cluster.node? index = some node)
    (peers : List String) (other otherNumber : Nat) :
    ∃ change : Group → Group,
      (∀ group, change group = group ∨ ∃ pool, change group = Node.repick pool group) ∧
      (cluster.setNode index (node.setPeers peers)).group? other otherNumber =
        (cluster.group? other otherNumber).map change := by
  rw [group?, group?, node?_setNode]
  by_cases same : other = index
  · rw [same, present, Option.map_some, if_pos rfl, Option.bind_some, Option.bind_some]
    cases isPool : node.pool with
    | none =>
        rw [Node.setPeers, isPool]
        exact ⟨id, fun _ => .inl rfl, Option.map_id.symm ▸ rfl⟩
    | some pool =>
        refine ⟨_, fun group => ?_, Node.groups_setPeers isPool peers otherNumber⟩
        by_cases asks : node.askers.contains otherNumber
        · exact .inr ⟨_, if_pos asks⟩
        · exact .inl (if_neg asks)
  · refine ⟨id, fun _ => .inl rfl, ?_⟩
    simp only [if_neg same, Option.map_id', Option.map_id_fun, id]

/-- A group after new peers for a node is as it was, or asks another pool. -/
theorem exists_group_of_setPeers {node : Node} (present : cluster.node? index = some node)
    {peers : List String} {other otherNumber : Nat} {after : Group}
    (found : (cluster.setNode index (node.setPeers peers)).group? other otherNumber = some after) :
    ∃ before, cluster.group? other otherNumber = some before ∧
      (after = before ∨ ∃ pool, after = Node.repick pool before) := by
  obtain ⟨change, changes, isMap⟩ := group?_setPeers present peers other otherNumber
  obtain ⟨before, wasFound, rfl⟩ := Option.map_eq_some_iff.mp (isMap.symm.trans found)
  exact ⟨before, wasFound, changes before⟩

theorem hosts_step (cluster : Cluster) (index number : Nat) (event : Group.Event) :
    (cluster.step index number event).1.hosts = cluster.hosts := by
  rw [step]
  cases cluster.node? index <;> rfl

theorem authorities_setNode (cluster : Cluster) (index : Nat) (node : Node) :
    (cluster.setNode index node).members.map Member.authority =
      cluster.members.map Member.authority := by
  refine List.ext_getElem? fun other => ?_
  rw [setNode, List.getElem?_map, List.getElem?_map, List.getElem?_modify]
  cases cluster.members[other]? with
  | none => rfl
  | some member => by_cases same : index = other <;> simp [same]

theorem authorities_step (cluster : Cluster) (index number : Nat) (event : Group.Event) :
    (cluster.step index number event).1.members.map Member.authority =
      cluster.members.map Member.authority := by
  rw [step]
  cases cluster.node? index with
  | none => rfl
  | some node => exact authorities_setNode _ _ _

/-- Who receives requests is known from authorities and hosts. -/
theorem recipient_eq (cluster : Cluster) (authority : String) :
    cluster.recipient authority =
      match (cluster.members.map Member.authority).findIdx? (· == some authority) with
      | some index => .node index
      | none =>
          .host (((cluster.hosts.lookup authority).or (cluster.hosts.lookup "*")).getD .down) := by
  rw [recipient, List.findIdx?_map]
  rfl

/-- Requests go to whom they went before. -/
theorem recipient_step (cluster : Cluster) (index number : Nat) (event : Group.Event)
    (authority : String) :
    (cluster.step index number event).1.recipient authority = cluster.recipient authority := by
  rw [recipient_eq, recipient_eq, authorities_step, hosts_step]

/-- What stays as it is while lookups go on: who receives what, which group a name leads
to, and what makes a group. -/
structure Alike (cluster next : Cluster) : Prop where
  size : next.members.length = cluster.members.length
  hosts : next.hosts = cluster.hosts
  recipients : ∀ authority, next.recipient authority = cluster.recipient authority
  nodes : ∀ index, (next.node? index).map (fun node => (node.basePath, node.registry.index)) =
    (cluster.node? index).map fun node => (node.basePath, node.registry.index)
  natures : ∀ index number, (next.group? index number).map (·.world.nature) =
    (cluster.group? index number).map (·.world.nature)

theorem Alike.refl (cluster : Cluster) : Alike cluster cluster :=
  ⟨rfl, rfl, fun _ => rfl, fun _ => rfl, fun _ _ => rfl⟩

theorem Alike.trans {next last : Cluster} (first : Alike cluster next) (second : Alike next last) :
    Alike cluster last where
  size := second.size.trans first.size
  hosts := second.hosts.trans first.hosts
  recipients authority := (second.recipients authority).trans (first.recipients authority)
  nodes index := (second.nodes index).trans (first.nodes index)
  natures index number := (second.natures index number).trans (first.natures index number)

theorem Alike.symm {next : Cluster} (alike : Alike cluster next) : Alike next cluster where
  size := alike.size.symm
  hosts := alike.hosts.symm
  recipients authority := (alike.recipients authority).symm
  nodes index := (alike.nodes index).symm
  natures index number := (alike.natures index number).symm

/-- A node of a later cluster has the base path and the names that it had. -/
theorem Alike.exists_node {next : Cluster} (alike : Alike cluster next) {node : Node}
    (present : next.node? index = some node) :
    ∃ before, cluster.node? index = some before ∧ node.basePath = before.basePath ∧
      ∀ name, node.registry.number? name = before.registry.number? name := by
  have same := alike.nodes index
  rw [present, Option.map_some] at same
  obtain ⟨before, found, isSame⟩ := Option.map_eq_some_iff.mp same.symm
  obtain ⟨sameBase, sameIndex⟩ := Prod.mk.inj isSame
  refine ⟨before, found, sameBase.symm, fun name => ?_⟩
  rw [Registry.number?, Registry.number?, sameIndex]

/-- A group of a later cluster is one that was there, with all that makes a group. -/
theorem Alike.exists_group {next : Cluster} (alike : Alike cluster next) {group : Group}
    (found : next.group? index number = some group) :
    ∃ before, cluster.group? index number = some before ∧
      group.world.nature = before.world.nature := by
  have same := alike.natures index number
  rw [found, Option.map_some] at same
  obtain ⟨before, present, isSame⟩ := Option.map_eq_some_iff.mp same.symm
  exact ⟨before, present, isSame.symm⟩

theorem Alike.groupName {next : Cluster} (alike : Alike cluster next) (index number : Nat) :
    next.groupName index number = cluster.groupName index number := by
  rw [groupName_eq, groupName_eq]
  cases found : next.group? index number with
  | none =>
      have same := alike.natures index number
      rw [found, Option.map_none] at same
      rw [Option.map_eq_none_iff.mp same.symm]
  | some group =>
      obtain ⟨before, present, same⟩ := alike.exists_group found
      rw [present]
      exact GroupState.name_of_nature same

theorem groupName_of_group? {group : Group} (found : cluster.group? index number = some group) :
    cluster.groupName index number = group.name := by
  rw [groupName_eq, found]
  rfl

/-- An event that does not change what makes a group changes nothing of this. -/
theorem alike_step {event : Group.Event}
    (steady : ∀ group, cluster.group? index number = some group →
      (group.step event).1.world.nature = group.world.nature) :
    Alike cluster (cluster.step index number event).1 where
  size := by
    have same := congrArg List.length (authorities_step cluster index number event)
    rwa [List.length_map, List.length_map] at same
  hosts := hosts_step _ _ _ _
  recipients := recipient_step _ _ _ _
  nodes other := by
    rw [node?_step, Option.map_map]
    cases cluster.node? other with
    | none => rfl
    | some node =>
        simp only [Option.map_some, Function.comp_apply]
        split
        · rw [Registry.index_step]
        · rfl
  natures otherIndex otherNumber := by
    rw [group?_step, Option.map_map]
    cases found : cluster.group? otherIndex otherNumber with
    | none => rfl
    | some group =>
        simp only [Option.map_some, Function.comp_apply]
        split
        · rename_i same
          rw [same.1, same.2] at found
          rw [steady group found]
        · rfl

/-! ### What groups promise -/

/-- Whether the groups at some places rest with what they promise. -/
def RestsAt (promises : Promises Group.loads) (places : Nat → Nat → Prop)
    (cluster : Cluster) : Prop :=
  ∀ index number group, cluster.group? index number = some group → places index number →
    promises.Rests group

variable {promises : Promises Group.loads} {places : Nat → Nat → Prop} {key : String}

/-- An event of lookups keeps what groups promise, and shows what they allow. -/
theorem RestsAt.step (rests : RestsAt promises places cluster) (index number : Nat)
    {event : Group.Event} (asks : places index number → Group.Asks key (promises.accepts key) event) :
    RestsAt promises places (cluster.step index number event).1 ∧
      (places index number → ∀ notice ∈ (cluster.step index number event).2,
        promises.Allows key notice) := by
  constructor
  · intro otherIndex otherNumber after found place
    obtain ⟨before, present, rfl | ⟨rfl, rfl, rfl⟩⟩ := exists_group_of_step found
    · exact rests otherIndex otherNumber after present place
    · have restsBefore := rests otherIndex otherNumber before present place
      exact (restsBefore.group_step (asks place)).1
  · intro place notice noticed
    obtain ⟨group, found, seen⟩ := exists_group_of_notice noticed
    exact ((rests index number group found place).group_step (asks place)).2 notice seen

/-- Lookups that start keep this too. -/
theorem RestsAt.start (rests : RestsAt promises places cluster) (index number : Nat)
    (key : String) (count : Nat) :
    RestsAt promises places (cluster.start index number key count).1 ∧
      (places index number → ∀ notice ∈ (cluster.start index number key count).2,
        promises.Allows key notice) := by
  induction count generalizing cluster with
  | zero => exact ⟨rests, fun _ => nofun⟩
  | succ count inductionHypothesis =>
      obtain ⟨restsNext, first⟩ := rests.step index number fun _ => .lookup
      obtain ⟨restsLast, others⟩ := inductionHypothesis restsNext
      refine ⟨restsLast, fun place notice noticed => ?_⟩
      rcases List.mem_append.mp noticed with early | late
      · exact first place notice early
      · exact others place notice late

end Cluster

end RingCache
