import RingCache.Proofs.Cluster.Nodes
import RingCache.Proofs.Flight.Worlds

/-!
# Groups do not affect each other

A registry hands its groups out under numbers. Whoever holds a group goes on using it under
its number, also after another group has been created under its name. `Registry.moveAll`
lets groups be created and used in any order, where a use is an event with all that lookups
do about it, or one happening of the flight alone, or a question. What is found out about a
group, and what becomes of it, is the same if the uses of all other groups are left out, and
the same as if it had been created alone (`groups_are_isolated`). A name leads to the group
that was created last under it.
-/

namespace RingCache

/-! ## Uses of one group -/

namespace Group

/-- What those who hold a group do with it. -/
inductive Use where
  /-- They register a picker. -/
  | register (picker : Picker)
  /-- They let an event happen, and every lookup that can go on does. -/
  | event (event : Event)
  /-- One thing happens, without what others do about it. -/
  | happening (happening : Happening (Option Picker) Unit)
  /-- They ask whether the value of a key is kept. -/
  | isCached (key : String)
  /-- They ask for the counters. -/
  | snapshot

/-- What they find out. -/
inductive Finding where
  /-- What can be seen of lookups. -/
  | noticed (notices : List (Notice Call Result))
  /-- That the group has a picker. -/
  | refused (failure : Failure)
  /-- Whether the value of a key is kept. -/
  | cached (isKept : Bool)
  /-- The counters. -/
  | counted (snapshot : Snapshot)

/-- One use of a group. -/
def use (group : Group) : Use → Group × Finding
  | .register picker =>
      match group.register picker with
      | .ok next => (next, .noticed [])
      | .error failure => (group, .refused failure)
  | .event event => ((group.step event).1, .noticed (group.step event).2)
  | .happening happening =>
      let happened := group.happen loads GroupState.equip happening
      (happened.1, .noticed happened.2)
  | .isCached key => (group, .cached (group.isCached key))
  | .snapshot => (group, .counted group.snapshot)

/-- Uses of a group one after the other. -/
def useAll (group : Group) : List Use → Group × List Finding
  | [] => (group, [])
  | use :: rest =>
      let used := group.use use
      let others := useAll used.1 rest
      (others.1, used.2 :: others.2)

/-- No group changes its name. -/
theorem name_invariant (name : String) :
    WorldInvariant loads GroupState.equip (·.name = name) fun _ => True where
  admitted _ _ _ _ := trivial
  acts _ _ now := now
  greets state key _ now :=
    (GroupState.name_of_nature (GroupState.nature_greet state key)).trans now
  starts state key _ now _ :=
    (GroupState.name_of_nature (GroupState.nature_start state key)).trans now
  resumes state key _ stage outcome now _ :=
    (GroupState.name_of_nature (GroupState.nature_resume state key stage outcome)).trans now
  shares _ now := now

/-- Whether a group is sound and has a name. -/
def IsNamed (group : Group) (name : String) : Prop :=
  group.Sound ∧ group.name = name

theorem IsNamed.create (name : String) (budget : Nat) (source : Source) :
    (create name budget source).IsNamed name :=
  ⟨.empty _, rfl⟩

variable {group : Group} {name : String}

theorem IsNamed.happen (named : group.IsNamed name)
    (happening : Happening (Option Picker) Unit) :
    IsNamed (group.happen loads GroupState.equip happening).1 name := by
  have effect := named.1.effect loads GroupState.equip happening
  exact ⟨effect.sound named.1,
    ((name_invariant name).happens effect named.2 fun _ _ => trivial).1⟩

theorem IsNamed.happenAll (named : group.IsNamed name)
    (happenings : List (Happening (Option Picker) Unit)) :
    IsNamed (group.happenAll loads GroupState.equip happenings).1 name := by
  induction happenings generalizing group with
  | nil => exact named
  | cons happening rest inductionHypothesis => exact inductionHypothesis (named.happen happening)

/-- A group keeps its name whatever is done with it. -/
theorem IsNamed.use (named : group.IsNamed name) (use : Use) : (group.use use).1.IsNamed name := by
  cases use with
  | register picker =>
      rw [Group.use, register]
      cases group.world.picker with
      | none => exact named.happen (.act (some picker))
      | some other => exact named
  | event event =>
      obtain ⟨happenings, stepped⟩ := step_eq named.1 event
      rw [Group.use, stepped]
      exact named.happenAll happenings
  | happening happening => exact named.happen happening
  | isCached key => exact named
  | snapshot => exact named

end Group

/-! ## Moves of a registry -/

namespace Registry

/-- What can be done with a registry and its groups. -/
inductive Move where
  /-- A group is created under a name. -/
  | create (name : String) (budget : Nat) (source : Source)
  /-- Those who hold the group with this number use it. -/
  | use (number : Nat) (use : Group.Use)

/-- Whether a move is no use of another group than the one with this number. -/
def Move.spares (number : Nat) : Move → Bool
  | .create _ _ _ => true
  | .use other _ => other == number

/-- The name of the group that is created, if one is. -/
def Move.created? : Move → Option String
  | .create name _ _ => some name
  | .use _ _ => none

/-- The use of the group with this number, if it is one. -/
def Move.useOf? (number : Nat) : Move → Option Group.Use
  | .create _ _ _ => none
  | .use other made => if other = number then some made else none

/-- One move, and what is found out about which group. -/
def move (registry : Registry) : Move → Registry × List (Nat × Group.Finding)
  | .create name budget source => (registry.create name budget source, [])
  | .use number made =>
      match registry.groups[number]? with
      | none => (registry, [])
      | some group =>
          let used := group.use made
          ({ registry with groups := registry.groups.set number used.1 }, [(number, used.2)])

/-- Moves one after the other. -/
def moveAll (registry : Registry) : List Move → Registry × List (Nat × Group.Finding)
  | [] => (registry, [])
  | move :: rest =>
      let moved := registry.move move
      let others := moveAll moved.1 rest
      (others.1, moved.2 ++ others.2)

/-- What is found out about one group. -/
def findings (number : Nat) (found : List (Nat × Group.Finding)) : List Group.Finding :=
  found.filterMap fun finding => if finding.1 = number then some finding.2 else none

/-- The names under which groups are created, in order. -/
def created (moves : List Move) : List String :=
  moves.filterMap Move.created?

/-- Whether the group with this number is the last one created under a name. -/
def IsLatest (moves : List Move) (name : String) (number : Nat) : Prop :=
  (created moves)[number]? = some name ∧
    ∀ later, number < later → (created moves)[later]? ≠ some name

/-- The registry after moves, which has no groups at first. -/
def after (moves : List Move) : Registry :=
  (({} : Registry).moveAll moves).1

/-- What is found out about one group in these moves. -/
def foundOf (number : Nat) (moves : List Move) : List Group.Finding :=
  findings number (({} : Registry).moveAll moves).2

variable {registry other : Registry} {number : Nat} {group : Group}

theorem findings_append (number : Nat) (first second : List (Nat × Group.Finding)) :
    findings number (first ++ second) = findings number first ++ findings number second :=
  List.filterMap_append

theorem moveAll_append (first second : List Move) :
    registry.moveAll (first ++ second) =
      (((registry.moveAll first).1.moveAll second).1,
        (registry.moveAll first).2 ++ ((registry.moveAll first).1.moveAll second).2) := by
  induction first generalizing registry with
  | nil => rfl
  | cons move rest inductionHypothesis =>
      rw [List.cons_append, moveAll, moveAll, inductionHypothesis]
      simp only [List.append_assoc]

theorem after_concat (moves : List Move) (move : Move) :
    after (moves ++ [move]) = ((after moves).move move).1 := by
  rw [after, moveAll_append]
  rfl

/-! ## What happens to one group -/

/-- A use of the group does to it what it does to the group alone. -/
theorem move_own (found : registry.groups[number]? = some group) (use : Group.Use) :
    (registry.move (.use number use)).1.groups[number]? = some (group.use use).1 ∧
      (registry.move (.use number use)).2 = [(number, (group.use use).2)] := by
  have inside := (List.getElem?_eq_some_iff.mp found).1
  rw [move, found]
  exact ⟨List.getElem?_set_self inside, rfl⟩

/-- Any other move leaves the group as it is, and nothing is found out about it. -/
theorem move_other (found : registry.groups[number]? = some group) {move : Move}
    (foreign : move.useOf? number = none) :
    (registry.move move).1.groups[number]? = some group ∧
      findings number (registry.move move).2 = [] := by
  cases move with
  | create name budget source =>
      have inside := (List.getElem?_eq_some_iff.mp found).1
      refine ⟨?_, rfl⟩
      rw [Registry.move, create, List.getElem?_append_left inside, found]
  | use used made =>
      have differs : used ≠ number := by
        rintro rfl
        simp [Move.useOf?] at foreign
      rw [Registry.move]
      cases registry.groups[used]? with
      | none => exact ⟨found, rfl⟩
      | some usedGroup =>
          refine ⟨?_, by simp [findings, differs]⟩
          rw [List.getElem?_set_ne differs, found]

/-- What becomes of a group, and what is found out about it, is what its own uses do. -/
theorem moveAll_of_group (found : registry.groups[number]? = some group) (moves : List Move) :
    (registry.moveAll moves).1.groups[number]? =
        some (group.useAll (moves.filterMap (Move.useOf? number))).1 ∧
      findings number (registry.moveAll moves).2 =
        (group.useAll (moves.filterMap (Move.useOf? number))).2 := by
  induction moves generalizing registry group with
  | nil => exact ⟨found, rfl⟩
  | cons move rest inductionHypothesis =>
      rw [moveAll, findings_append]
      cases isUse : move.useOf? number with
      | none =>
          obtain ⟨kept, silent⟩ := move_other found isUse
          rw [List.filterMap_cons_none isUse, silent, List.nil_append]
          exact inductionHypothesis kept
      | some use =>
          obtain rfl : move = .use number use := by
            cases move with
            | create name budget source => cases isUse
            | use used made =>
                rw [Move.useOf?] at isUse
                split at isUse
                · rename_i same
                  rw [same, Option.some.inj isUse]
                · cases isUse
          obtain ⟨next, learned⟩ := move_own found use
          obtain ⟨last, rests⟩ := inductionHypothesis next
          rw [List.filterMap_cons_some isUse, Group.useAll, learned, rests]
          refine ⟨last, ?_⟩
          simp [findings]

/-! ## The same moves without the uses of other groups -/

/-- Whether two registries have the same group with a number, and the same numbers and
names. -/
structure Agree (number : Nat) (registry other : Registry) : Prop where
  size : registry.groups.length = other.groups.length
  index : registry.index = other.index
  group : registry.groups[number]? = other.groups[number]?

/-- Creating a group and using this one does the same to both. -/
theorem Agree.move (agree : Agree number registry other) {move : Move}
    (spares : move.spares number) :
    Agree number (registry.move move).1 (other.move move).1 ∧
      (registry.move move).2 = (other.move move).2 := by
  cases move with
  | create name budget source =>
      refine ⟨⟨?_, ?_, ?_⟩, rfl⟩
      · simp [Registry.move, create, agree.size]
      · simp only [Registry.move, create, agree.size, agree.index]
      · simp only [Registry.move, create, List.getElem?_append, agree.size, agree.group]
  | use used made =>
      obtain rfl : used = number := by simpa [Move.spares] using spares
      rw [Registry.move, Registry.move, ← agree.group]
      cases found : registry.groups[used]? with
      | none => exact ⟨agree, rfl⟩
      | some group =>
          have foundOther : other.groups[used]? = some group := agree.group ▸ found
          refine ⟨⟨?_, agree.index, ?_⟩, rfl⟩
          · rw [List.length_set, List.length_set, agree.size]
          · rw [List.getElem?_set_self (List.getElem?_eq_some_iff.mp found).1,
              List.getElem?_set_self (List.getElem?_eq_some_iff.mp foundOther).1]

/-- A use of another group does not have to happen. -/
theorem Agree.leftOut (agree : Agree number registry other) {move : Move}
    (foreign : move.spares number = false) :
    Agree number (registry.move move).1 other ∧ findings number (registry.move move).2 = [] := by
  cases move with
  | create name budget source => cases foreign
  | use used made =>
      have differs : used ≠ number := by simpa [Move.spares] using foreign
      rw [Registry.move]
      cases registry.groups[used]? with
      | none => exact ⟨agree, rfl⟩
      | some group =>
          refine ⟨⟨?_, agree.index, ?_⟩, by simp [findings, differs]⟩
          · rw [List.length_set, agree.size]
          · rw [List.getElem?_set_ne differs, agree.group]

/-- If the uses of other groups are left out, all that concerns a group stays. -/
theorem Agree.moveAll (agree : Agree number registry other) (moves : List Move) :
    Agree number (registry.moveAll moves).1
        (other.moveAll (moves.filter (Move.spares number))).1 ∧
      findings number (registry.moveAll moves).2 =
        findings number (other.moveAll (moves.filter (Move.spares number))).2 := by
  induction moves generalizing registry other with
  | nil => exact ⟨agree, rfl⟩
  | cons move rest inductionHypothesis =>
      rw [Registry.moveAll, findings_append]
      by_cases spares : move.spares number
      · obtain ⟨next, same⟩ := agree.move spares
        obtain ⟨last, others⟩ := inductionHypothesis next
        rw [List.filter_cons_of_pos spares, Registry.moveAll, findings_append, same, others]
        exact ⟨last, rfl⟩
      · obtain ⟨next, silent⟩ := agree.leftOut (Bool.eq_false_of_not_eq_true spares)
        rw [List.filter_cons_of_neg spares, silent, List.nil_append]
        exact inductionHypothesis next

/-! ## Names -/

/-- Whether groups have been created under these names, in this order: each has its name,
and a name leads to the last group of this name. -/
structure Lists (registry : Registry) (names : List String) : Prop where
  size : registry.groups.length = names.length
  named : ∀ (number : Nat) group, registry.groups[number]? = some group →
    ∃ name, names[number]? = some name ∧ group.IsNamed name
  ascends : Ascending.Ascends registry.index
  latest : ∀ name number, registry.number? name = some number ↔
    names[number]? = some name ∧ ∀ later, number < later → names[later]? ≠ some name
  used : ∀ name ∈ names, (registry.number? name).isSome

theorem Lists.empty : ({} : Registry).Lists [] where
  size := rfl
  named _ _ := nofun
  ascends := .nil
  latest _ _ := ⟨nofun, fun ⟨found, _⟩ => nomatch found⟩
  used := nofun

/-- One more name comes last. -/
theorem getElem?_concat_eq_some_iff {names : List String} {name own : String} {number : Nat} :
    (names ++ [name])[number]? = some own ↔
      names[number]? = some own ∨ (number = names.length ∧ own = name) := by
  rcases Nat.lt_trichotomy number names.length with before | rfl | behind
  · rw [List.getElem?_append_left before]
    simp [Nat.ne_of_lt before]
  · simp [eq_comm]
  · have absent : names[number]? = none := List.getElem?_eq_none (Nat.le_of_lt behind)
    have absentNext : (names ++ [name])[number]? = none :=
      List.getElem?_eq_none (by simpa using behind)
    simp [absent, absentNext, Nat.ne_of_gt behind]

variable {names : List String}

/-- A name under which a group is created leads to this group, and no other name changes. -/
theorem Lists.create (lists : registry.Lists names) (name : String) (budget : Nat)
    (source : Source) : (registry.create name budget source).Lists (names ++ [name]) where
  size := by simp [Registry.create, lists.size]
  named number group found := by
    rcases Nat.lt_or_ge number registry.groups.length with before | behind
    · rw [Registry.create, List.getElem?_append_left before] at found
      obtain ⟨own, listed, named⟩ := lists.named number group found
      exact ⟨own, getElem?_concat_eq_some_iff.mpr (.inl listed), named⟩
    · rw [Registry.create, List.getElem?_append_right behind, List.getElem?_singleton] at found
      split at found
      on_goal 2 => cases found
      obtain rfl := Option.some.inj found
      have last : number = names.length := by
        rw [← lists.size]
        omega
      exact ⟨name, getElem?_concat_eq_some_iff.mpr (.inr ⟨last, rfl⟩), .create name budget source⟩
  ascends := lists.ascends.insert name _
  latest own number := by
    rw [number?_create]
    simp only [getElem?_concat_eq_some_iff, ne_eq, not_or]
    split
    · rename_i isName
      subst isName
      rw [lists.size]
      constructor
      · intro isLast
        obtain rfl := Option.some.inj isLast
        refine ⟨.inr ⟨rfl, rfl⟩, fun later behind => ⟨?_, fun same => ?_⟩⟩
        · rw [List.getElem?_eq_none (Nat.le_of_lt behind)]
          exact (Option.some_ne_none own).symm
        · exact absurd same.1 (Nat.ne_of_gt behind)
      · rintro ⟨listed | ⟨rfl, _⟩, noLater⟩
        · have inside := (List.getElem?_eq_some_iff.mp listed).1
          exact absurd ⟨rfl, rfl⟩ (noLater names.length inside).2
        · rfl
    · rename_i differs
      simp only [differs, and_false, or_false, not_false_eq_true, and_true]
      exact lists.latest own number
  used own mem := by
    rw [number?_create]
    split
    · rfl
    · rename_i differs
      rcases List.mem_append.mp mem with before | added
      · exact lists.used own before
      · exact absurd (List.mem_singleton.mp added) differs

/-- Using a group changes no names. -/
theorem Lists.use (lists : registry.Lists names) (number : Nat) (use : Group.Use) :
    (registry.move (.use number use)).1.Lists names := by
  rw [move]
  cases found : registry.groups[number]? with
  | none => exact lists
  | some group =>
      refine
        { size := by rw [List.length_set, lists.size]
          named := fun other used isUsed => ?_
          ascends := lists.ascends
          latest := lists.latest
          used := lists.used }
      by_cases same : number = other
      · subst same
        rw [List.getElem?_set_self (List.getElem?_eq_some_iff.mp found).1] at isUsed
        obtain ⟨name, listed, named⟩ := lists.named number group found
        exact ⟨name, listed, Option.some.inj isUsed ▸ named.use use⟩
      · rw [List.getElem?_set_ne same] at isUsed
        exact lists.named other used isUsed

/-- After moves, the groups are those that were created. -/
theorem lists_after (moves : List Move) : (after moves).Lists (created moves) := by
  induction moves using List.reverseRecOn with
  | nil => exact .empty
  | append_singleton moves move inductionHypothesis =>
      rw [after_concat, created, List.filterMap_append]
      cases move with
      | create name budget source => exact inductionHypothesis.create name budget source
      | use number use =>
          have created : [Move.use number use].filterMap Move.created? = [] := rfl
          rw [created, List.append_nil]
          exact inductionHypothesis.use number use

/-- A name leads to a group exactly if the group was created last under it. -/
theorem find?_eq_some_iff (moves : List Move) {name : String} :
    (after moves).find? name = some group ↔
      ∃ number, IsLatest moves name number ∧ (after moves).groups[number]? = some group := by
  have lists := lists_after moves
  rw [find?, Option.bind_eq_bind, Option.bind_eq_some_iff]
  exact exists_congr fun number => and_congr_left' (lists.latest name number)

/-- A name that leads to a number leads to a group. -/
theorem Lists.exists_group (lists : registry.Lists names) {name : String}
    (leads : registry.number? name = some number) :
    ∃ group, registry.groups[number]? = some group ∧ group.name = name := by
  obtain ⟨listed, _⟩ := (lists.latest name number).mp leads
  have inside : number < registry.groups.length := by
    rw [lists.size]
    exact (List.getElem?_eq_some_iff.mp listed).1
  obtain ⟨own, isOwn, _, named⟩ := lists.named number _ (List.getElem?_eq_getElem inside)
  refine ⟨_, List.getElem?_eq_getElem inside, named.trans ?_⟩
  exact Option.some.inj (isOwn.symm.trans listed)

/-- The names are those under which groups were created. -/
theorem Lists.mem_names (lists : registry.Lists names) {name : String} :
    name ∈ registry.names ↔ name ∈ names := by
  constructor
  · intro mem
    obtain ⟨⟨own, number⟩, listed, rfl⟩ := List.mem_map.mp mem
    have leads := lists.ascends.lookup_eq_some_iff.mpr listed
    exact List.mem_of_getElem? ((lists.latest own number).mp leads).1
  · intro mem
    obtain ⟨number, leads⟩ := Option.isSome_iff_exists.mp (lists.used name mem)
    exact List.mem_map.mpr ⟨_, lists.ascends.lookup_eq_some_iff.mp leads, rfl⟩

/-- The snapshots are those of the groups to which the names lead, in the order of the
names. -/
theorem Lists.snapshots_eq (lists : registry.Lists names) :
    registry.snapshots.map (fun named => (named.1, some named.2)) =
      registry.names.map fun name => (name, (registry.find? name).map Group.snapshot) := by
  have leads : ∀ named ∈ registry.index, ∃ group,
      registry.groups[named.2]? = some group ∧ registry.find? named.1 = some group := by
    intro named listed
    have leads := lists.ascends.lookup_eq_some_iff.mpr listed
    obtain ⟨group, found, _⟩ := lists.exists_group leads
    refine ⟨group, found, ?_⟩
    rw [find?, number?, leads]
    exact found
  rw [snapshots, Registry.names, List.map_filterMap, List.map_map,
    List.filterMap_eq_map_iff_forall_eq_some]
  intro named listed
  obtain ⟨group, found, isFound⟩ := leads named listed
  simp [found, isFound]

/-- A name under which a group is created leads to this group, and every group that there was
is still there. -/
theorem find?_create (registry : Registry) (name : String) (budget : Nat) (source : Source) :
    (registry.create name budget source).find? name = some (Group.create name budget source) ∧
      ∀ (number : Nat) group, registry.groups[number]? = some group →
        (registry.create name budget source).groups[number]? = some group := by
  constructor
  · rw [find?, number?_create, if_pos rfl]
    simp [create]
  · intro number group found
    have foreign : (Move.create name budget source).useOf? number = none := rfl
    exact (move_other found foreign).1

/-- In moves that create groups, also under names already taken, and use them in any order:

* What becomes of a group and what is found out about it is the same if all uses of other
  groups are left out.
* Once a group is there, it is what its own uses make of it, whatever else is done.
* A group that is created starts without values, counts, lookups and picker; its name leads to
  it, and every other group is still there as it was.
* A name leads exactly to the group created last under it. The names ascend, each once, and
  are those under which groups were created; the snapshots are theirs, in their order. -/
theorem groups_are_isolated (moves : List Move) :
    (∀ number : Nat,
      (after moves).groups[number]? =
          (after (moves.filter (Move.spares number))).groups[number]? ∧
        foundOf number moves = foundOf number (moves.filter (Move.spares number))) ∧
      (∀ (number : Nat) group, (after moves).groups[number]? = some group → ∀ more : List Move,
        (after (moves ++ more)).groups[number]? =
            some (group.useAll (more.filterMap (Move.useOf? number))).1 ∧
          foundOf number (moves ++ more) = foundOf number moves ++
            (group.useAll (more.filterMap (Move.useOf? number))).2) ∧
      (∀ name budget source, ∃ group : Group,
        (after (moves ++ [.create name budget source])).find? name = some group ∧
          group.name = name ∧ group.snapshot = {} ∧ (∀ key, group.isCached key = false) ∧
          group.inFlight = 0 ∧ group.callers = [] ∧ group.world.picker = none ∧
          ∀ (number : Nat) held, (after moves).groups[number]? = some held →
            (after (moves ++ [.create name budget source])).groups[number]? = some held) ∧
      (∀ name group, (after moves).find? name = some group ↔
        ∃ number, IsLatest moves name number ∧ (after moves).groups[number]? = some group) ∧
      (∀ name group, (after moves).find? name = some group → group.name = name) ∧
      (after moves).names.Pairwise (· < ·) ∧
      (∀ name, name ∈ (after moves).names ↔ name ∈ created moves) ∧
      (after moves).size = (after moves).names.length ∧
      (after moves).snapshots.map (fun named => (named.1, some named.2)) =
        (after moves).names.map fun name =>
          (name, ((after moves).find? name).map Group.snapshot) := by
  have lists := lists_after moves
  refine ⟨fun number => ?_, fun number group found more => ?_, fun name budget source => ?_,
    fun name group => find?_eq_some_iff moves, fun name group found => ?_,
    List.pairwise_map.mpr lists.ascends, fun name => lists.mem_names,
    (List.length_map Prod.fst).symm, lists.snapshots_eq⟩
  · have agree : Agree number ({} : Registry) {} := ⟨rfl, rfl, rfl⟩
    exact ⟨(agree.moveAll moves).1.group, (agree.moveAll moves).2⟩
  · obtain ⟨last, learned⟩ := moveAll_of_group found more
    rw [after, foundOf, moveAll_append, findings_append]
    exact ⟨last, congrArg _ learned⟩
  · rw [after_concat]
    obtain ⟨isFound, kept⟩ := (after moves).find?_create name budget source
    exact ⟨_, isFound, rfl, rfl, fun _ => rfl, rfl, rfl, rfl, kept⟩
  · obtain ⟨number, leads, isGroup⟩ := Option.bind_eq_some_iff.mp found
    obtain ⟨other, isOther, named⟩ := lists.exists_group leads
    rw [isOther] at isGroup
    exact Option.some.inj isGroup ▸ named

end Registry

end RingCache
