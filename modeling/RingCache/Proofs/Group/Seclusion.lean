import RingCache.Proofs.Group.Replies

/-!
# Groups that nobody is named to

A group may have a picker that names nobody for any key. Then its passes ask nobody, until others
change the picker: there is no fetch that could end, so that whatever lookups return comes from the
cache, or from a call of the source that a pass has made (`GroupState.Secluded.inward`). A lookup
that is still there when the picker changes may lead a pass later on, and ask the new picker; if the
source never waits, there is no such lookup (`GroupState.Secluded.never_asks`). What is reached by
events of such a group is reached by such a run, and the picker that is there is kept
(`Group.Descends.step`).
-/

namespace RingCache

/-- Whether a happening is no act of others. -/
def Happening.IsQuiet {α κ : Type} (happening : Happening α κ) : Prop :=
  ∀ change, happening ≠ .act change

namespace Source

/-- Whether a source answers every call at once. -/
def IsPrompt (source : Source) : Prop :=
  ∀ calls key, ∃ outcome answer, source.load calls key = .now outcome ∧
    outcome.answer? = some answer

theorem IsPrompt.ne_held {source : Source} (prompt : source.IsPrompt) (calls : Nat)
    (key : String) : source.load calls key ≠ .held := by
  obtain ⟨outcome, _, replied, _⟩ := prompt calls key
  rw [replied]
  nofun

theorem isPrompt_ofFunction (function : String → Except String Octets) :
    (ofFunction function).IsPrompt := by
  intro calls key
  obtain ⟨outcome, replied, answered⟩ := ofFunction_load function calls key
  exact ⟨outcome, _, replied, answered⟩

end Source

/-- Whether a group has a picker, which names nobody, and keeps nothing. -/
structure GroupState.Secluded (state : GroupState) : Prop where
  asks : state.picker.isSome = true
  nobody : ∀ key, state.owner? key = none
  empty : state.cache.store = none

namespace GroupRun

/-! ## Runs in which the picker stays -/

/-- Whether nobody changes the picker of a run before a time. -/
def QuietBefore (run : GroupRun) (index : Nat) : Prop :=
  ∀ earlier < index, (run.happening earlier).IsQuiet

/-- Where a result of a lookup comes from that no peer has given. -/
inductive Own (run : GroupRun) (index id : Nat) (key : String) : Result → Prop where
  /-- Without a key nothing is looked up. -/
  | unnamed (isEmpty : key = "") : Own run index id key (.error .emptyKey)
  /-- The cache has the value of the last call of the source for the key that succeeded. -/
  | kept (value : Octets) (last : run.LastLoaded index key value) : Own run index id key (.ok value)
  /-- A pass of the key has it from its call of the source, and the lookup receives it. -/
  | loaded (ticket time leader : Nat) (outcome : Outcome) (result : Result) (before : time ≤ index)
      (receives : run.Receives index id key ticket result)
      (publishes : run.Publishes time leader key ticket result)
      (ends : run.LoadEnds time leader key outcome) (gives : outcome.loaded? = some result) :
      Own run index id key result

/-- Whether what is seen of a happening involves no peer: nobody is asked, and whoever returns has a
result that no peer has given. -/
structure Inward (run : GroupRun) (index : Nat) : Prop where
  unasked : ∀ id peer name key, .called id (.fetch peer name key) ∉ run.notices index
  own : ∀ id key result, .ended id key (.returned result) ∈ run.notices index →
    run.Own index id key result

variable {run : GroupRun} {index id : Nat} {key : String} {result : Result}

/-- Who enters finds what makes the group as it was. -/
theorem nature_of_entrant {group base : Group} {happening : Happening (Option Picker) Unit}
    {plan : Unit} (entrant : Flight.Entrant Group.loads group happening id key plan base) :
    base.world.nature = group.world.nature := by
  cases entrant with
  | fresh key plan missed => exact GroupState.nature_greet group.world key
  | woken caller present told => rfl

theorem QuietBefore.mono (quiet : run.QuietBefore index) {earlier : Nat}
    (before : earlier ≤ index) : run.QuietBefore earlier :=
  fun time within => quiet time (Nat.lt_of_lt_of_le within before)

/-- Until others act, what makes the group stays. -/
theorem QuietBefore.nature_eq (quiet : run.QuietBefore index) :
    (run.state index).world.nature = run.world.nature := by
  induction index with
  | zero => rfl
  | succ index inductionHypothesis =>
      have same := inductionHypothesis (quiet.mono (Nat.le_succ index))
      have turn := (run.effect index).world
      generalize (run.state (index + 1)).world = world at turn ⊢
      cases turn with
      | rests => exact same
      | acted change isAct => exact absurd isAct (quiet index (Nat.lt_succ_self index) change)
      | greeted key plan isStart => exact (GroupState.nature_greet _ key).trans same
      | started id key plan base entrant opened =>
          exact (GroupState.nature_start _ key).trans ((nature_of_entrant entrant).trans same)
      | resumed leader present ticket stage leads outcome finished =>
          exact (GroupState.nature_resume _ leader.key stage outcome).trans same
      | shared caller present result told => exact same

end GroupRun

/-! ## Runs in which nobody is named -/

/-- A pass that asks nobody ends at once if the source does not wait. -/
theorem GroupState.start_ends {state : GroupState} {key : String} (nobody : state.owner? key = none)
    (replies : state.source.load state.sourceCalls key ≠ .held) :
    (state.start key).2.2.ending? ≠ none := by
  have picked := (pick_eq state key).1.trans nobody
  rw [start, picked]
  dsimp only
  rw [pick_frame, load]
  dsimp only
  cases replied : state.source.load state.sourceCalls key with
  | held => exact absurd replied replies
  | now outcome => exact loaded_ends _ key outcome

namespace GroupState.Secluded

variable {run : GroupRun} {index id : Nat}

/-- Until others act, nobody is named for any key. -/
theorem nobody_at (secluded : run.world.Secluded) (quiet : run.QuietBefore index) (key : String) :
    (run.state index).world.owner? key = none := by
  rw [owner?_of_nature quiet.nature_eq]
  exact secluded.nobody key

/-- And no lookup has asked anybody. -/
theorem fetch_not_mem (secluded : run.world.Secluded) (quiet : run.QuietBefore index)
    (peer : Peer) (name asked : String) : .fetch peer name asked ∉ run.calls id (index + 1) := by
  have unnamed : ∀ {start key peer}, start < index + 1 →
      (run.state start).world.owner? key ≠ some peer := by
    intro start key peer before named
    rw [secluded.nobody_at (quiet.mono (Nat.le_of_lt_succ before))] at named
    cases named
  have passage := run.passage id (index + 1)
  generalize run.calls id (index + 1) = calls at passage
  cases passage with
  | before => exact List.not_mem_nil
  | loads => simp
  | fetches start key ticket peer started opens named => exact absurd named (unnamed started)
  | fetched start key ticket peer started opens named => exact absurd named (unnamed started)
  | failed start key ticket peer started opens named => exact absurd named (unnamed started)

/-- If the source never waits, nobody is left after a happening. -/
theorem nobody_left (secluded : run.world.Secluded) (quiet : run.QuietBefore index)
    (replies : ∀ calls key, run.world.source.load calls key ≠ .held) :
    (run.state index).callers = [] := by
  induction index with
  | zero => rfl
  | succ index inductionHypothesis =>
      have quietBefore := quiet.mono (Nat.le_succ index)
      have nobody := inductionHypothesis quietBefore
      have sound := run.sound index
      refine List.eq_nil_iff_forall_not_mem.mpr fun caller present => ?_
      -- Nobody was there before, so that it has just come, and leads a load that waits.
      rcases (run.effect index).origin present with
        ⟨before, wasPresent, _⟩ | ⟨_, _, _, ⟨_, _, found, _⟩ | ⟨_, _, opened, _⟩⟩
      · exact List.not_mem_nil (nobody ▸ wasPresent)
      · exact List.not_mem_nil (sound.records_of_nobody nobody ▸ found)
      · obtain ⟨_, base, entrant, _, _, _, _, started, _, ⟨stage, rfl, _⟩ | ⟨_, _, gone, _⟩⟩ :=
          opened.happen_cases GroupState.equip sound
        · have same := (GroupRun.nature_of_entrant entrant).trans quietBefore.nature_eq
          refine start_ends ?_ ?_ (Progress.ending?_eq_none.mpr ⟨stage, congrArg (·.2.2) started⟩)
          · rw [owner?_of_nature same]
            exact secluded.nobody caller.key
          · rw [source_of_nature same]
            exact replies _ caller.key
        · exact gone.2 caller present rfl

/-- Then who has come before others act is seen to ask nobody, whatever happens later. -/
theorem never_asks (secluded : run.world.Secluded) (quiet : run.QuietBefore index)
    (replies : ∀ calls key, run.world.source.load calls key ≠ .held)
    (came : id < (run.state index).nextCaller) (time : Nat) (peer : Peer) (name key : String) :
    .called id (.fetch peer name key) ∉ run.notices time := by
  intro called
  rcases Nat.lt_or_ge time index with before | after
  · exact secluded.fetch_not_mem (quiet.mono before.le) peer name key
      (GroupRun.mem_calls_of_noticed called)
  · have gone : (run.state index).Gone id := by
      refine ⟨came, fun caller present => ?_⟩
      rw [secluded.nobody_left quiet replies] at present
      cases present
    exact Run.silent_of_gone gone after _ called rfl

/-- Until others act, nobody is asked, and all that lookups return is the group's own. -/
theorem inward (secluded : run.world.Secluded) (quiet : run.QuietBefore index) :
    run.Inward index where
  unasked id peer name key called :=
    secluded.fetch_not_mem quiet peer name key (GroupRun.mem_calls_of_noticed called)
  own id key result ended := by
    rcases Run.receives_of_ended ended with answers | ⟨ticket, receives⟩
    · rcases GroupRun.lastLoaded_of_answers secluded.empty answers with
        ⟨isEmpty, rfl⟩ | ⟨value, rfl, last⟩
      · exact .unnamed isEmpty
      · exact .kept value last
    · obtain ⟨ticket, time, leader, receives, before, publishes, yields, _⟩ :=
        GroupRun.traces_of_receives receives
      cases yields with
      | fetched peer outcome called ends gives =>
          exact absurd called (secluded.fetch_not_mem (quiet.mono before) peer _ _)
      | loaded outcome called ends gives =>
          exact .loaded ticket time leader outcome result before receives publishes ends gives

end GroupState.Secluded

/-! ## Groups that come from one nobody is named to -/

namespace Group

/-- Whether a group has come from another one while nobody has changed the picker. -/
def Continues (past group : Group) : Prop :=
  ∃ happenings : List (Happening (Option Picker) Unit),
    (∀ happening ∈ happenings, happening.IsQuiet) ∧
      group = (past.happenAll loads GroupState.equip happenings).1

/-- Whether a group is between two events, and has come so from a state without lookups. -/
structure Descends (world : GroupState) (group : Group) : Prop where
  settled : group.Settled
  continues : Continues { world := world } group

/-- Whether a notice belongs to a run that has come by a group, while nobody has changed the picker
in it. -/
def SeenAfter (world : GroupState) (past : Group) (notice : Notice Call Result) : Prop :=
  ∃ run : GroupRun, ∃ start index, run.world = world ∧ run.state start = past ∧ start ≤ index ∧
    run.QuietBefore index ∧ notice ∈ run.notices index

/-- Whether a group that has come from a state without lookups has a result for a key: in a run that
comes by the group, a lookup of the key returns the result before others act, and no peer has given
it. -/
def Supplies (group : Group) (world : GroupState) (key : String) (result : Result) : Prop :=
  ∃ run : GroupRun, ∃ start index id, run.world = world ∧ run.state start = group ∧
    start ≤ index ∧ run.QuietBefore index ∧ .ended id key (.returned result) ∈ run.notices index ∧
    run.Own index id key result

variable {world : GroupState} {past group next : Group} {notice : Notice Call Result}

theorem Continues.refl (group : Group) : Continues group group :=
  ⟨[], nofun, rfl⟩

theorem Continues.trans (first : Continues past group) (second : Continues group next) :
    Continues past next := by
  obtain ⟨before, quietBefore, rfl⟩ := first
  obtain ⟨later, quietLater, rfl⟩ := second
  refine ⟨before ++ later, List.forall_mem_append.mpr ⟨quietBefore, quietLater⟩, ?_⟩
  rw [Flight.happenAll_append]

/-- At first it has. -/
theorem descends_self (world : GroupState) : Descends world { world := world } where
  settled := Promises.rests_of_nobody _ (.empty _) rfl rfl
  continues := .refl _

/-- Happenings that leave the picker as it is belong to a run that does so. -/
theorem exists_quiet_run (world : GroupState)
    {before later : List (Happening (Option Picker) Unit)}
    (quietBefore : ∀ happening ∈ before, happening.IsQuiet)
    (quietLater : ∀ happening ∈ later, happening.IsQuiet) :
    ∃ run : GroupRun, ∃ start, run.world = world ∧ (∀ index, run.QuietBefore index) ∧
      run.state start = (Flight.happenAll loads GroupState.equip { world := world } before).1 ∧
      (List.range' start later.length).flatMap run.notices =
        (Flight.happenAll loads GroupState.equip (run.state start) later).2 := by
  let happenings := before ++ later
  let run : GroupRun := ⟨world, fun index => happenings.getD index .nothing⟩
  have quiet : ∀ happening ∈ happenings, happening.IsQuiet :=
    List.forall_mem_append.mpr ⟨quietBefore, quietLater⟩
  have reached := (run.state_add before 0 fun offset within => by
    simp [run, happenings, List.getElem?_append_left within, within]).1
  have seen := (run.state_add later before.length fun offset within => by
    simp [run, happenings, within]).2
  rw [Nat.zero_add] at reached
  refine ⟨run, before.length, rfl, fun index earlier _ => ?_, reached, seen⟩
  by_cases within : earlier < happenings.length
  · have listed : run.happening earlier = happenings[earlier] := by simp [run, within]
    exact listed ▸ quiet _ (List.getElem_mem within)
  · have nothing : run.happening earlier = .nothing := by simp [run, within]
    exact nothing ▸ nofun

/-- A group that has come from one has a state of a quiet run of it. -/
theorem Descends.exists_run (descends : Descends world group) :
    ∃ run : GroupRun, ∃ index, run.world = world ∧ run.QuietBefore index ∧
      run.state index = group := by
  obtain ⟨_, happenings, quiet, rfl⟩ := descends
  obtain ⟨run, start, isWorld, quietRun, reached, _⟩ :=
    exists_quiet_run world quiet (List.forall_mem_nil _)
  exact ⟨run, start, isWorld, quietRun start, reached⟩

/-- It keeps the picker. -/
theorem Descends.picker_eq (descends : Descends world group) :
    group.world.picker = world.picker := by
  obtain ⟨run, index, rfl, quiet, rfl⟩ := descends.exists_run
  exact GroupState.picker_of_nature quiet.nature_eq

/-- If there is a picker, an event leaves it as it is. -/
theorem Descends.exists_quiet (descends : Descends world group)
    (asks : world.picker.isSome = true) (event : Event) :
    ∃ happenings : List (Happening (Option Picker) Unit),
      (∀ happening ∈ happenings, happening.IsQuiet) ∧
        group.step event = group.happenAll loads GroupState.equip happenings := by
  have flies (event : Flight.Event Unit) : ∃ happenings : List (Happening (Option Picker) Unit),
      (∀ happening ∈ happenings, happening.IsQuiet) ∧
        Flight.step loads group event = group.happenAll loads GroupState.equip happenings := by
    refine ⟨_, fun happening mem => ?_, descends.settled.sound.step_eq loads GroupState.equip event⟩
    rcases List.mem_cons.mp mem with rfl | waking
    · exact nofun
    · obtain ⟨caller, _, rfl⟩ := List.mem_map.mp waking
      exact nofun
  cases event with
  | lookup key => exact flies (.start key ())
  | finish key outcome => exact flies (.finish key outcome)
  | cancelLeader key => exact flies (.cancelLeader key)
  | cancelWaiter key => exact flies (.cancelWaiter key)
  | register picker =>
      obtain ⟨other, registered⟩ := Option.isSome_iff_exists.mp asks
      refine ⟨[], nofun, ?_⟩
      rw [step, register, descends.picker_eq, registered]
      rfl

/-- So an event leaves a group that has come from the one before. -/
theorem Descends.continues_step (descends : Descends world group)
    (asks : world.picker.isSome = true) (event : Event) :
    Continues group (group.step event).1 := by
  obtain ⟨happenings, quiet, stepped⟩ := descends.exists_quiet asks event
  exact ⟨happenings, quiet, congrArg Prod.fst stepped⟩

theorem Descends.step (descends : Descends world group) (asks : world.picker.isSome = true)
    (event : Event) : Descends world (group.step event).1 where
  settled := descends.settled.step event
  continues := descends.continues.trans (descends.continues_step asks event)

/-- What is seen of an event is seen in a run that comes by every group that this one has come
from. -/
theorem Descends.seen (descends : Descends world group) (asks : world.picker.isSome = true)
    (origin : Continues { world := world } past) (continues : Continues past group) {event : Event}
    (noticed : notice ∈ (group.step event).2) : SeenAfter world past notice := by
  obtain ⟨before, quietBefore, rfl⟩ := origin
  obtain ⟨between, quietBetween, isGroup⟩ := continues
  obtain ⟨now, quietNow, stepped⟩ := descends.exists_quiet asks event
  obtain ⟨run, start, isWorld, quiet, reached, seen⟩ := exists_quiet_run world quietBefore
    (List.forall_mem_append.mpr ⟨quietBetween, quietNow⟩)
  have mem : notice ∈ (List.range' start (between ++ now).length).flatMap run.notices := by
    rw [seen, Flight.happenAll_append, reached, ← isGroup, ← stepped]
    exact List.mem_append_right _ noticed
  obtain ⟨index, within, isNotice⟩ := List.mem_flatMap.mp mem
  exact ⟨run, start, index, isWorld, reached, (List.mem_range'_1.mp within).1, quiet index,
    isNotice⟩

/-! ### What is seen of them -/

/-- Nobody is asked. -/
theorem SeenAfter.ne_fetch {id : Nat} {peer : Peer} {name key : String} (secluded : world.Secluded)
    (seen : SeenAfter world past notice) : notice ≠ .called id (.fetch peer name key) := by
  rintro rfl
  obtain ⟨run, _, index, rfl, _, _, quiet, noticed⟩ := seen
  exact (secluded.inward quiet).unasked id peer name key noticed

/-- Whoever returns has what the group has. -/
theorem SeenAfter.supplies {id : Nat} {key : String} {result : Result} (secluded : world.Secluded)
    (seen : SeenAfter world past (.ended id key (.returned result))) :
    past.Supplies world key result := by
  obtain ⟨run, start, index, rfl, reached, later, quiet, noticed⟩ := seen
  exact ⟨run, start, index, id, rfl, reached, later, quiet, noticed,
    (secluded.inward quiet).own id key result noticed⟩

/-- If the source answers at once, so does the group. -/
theorem Descends.exists_gives (descends : Descends world group) (secluded : world.Secluded)
    (prompt : world.source.IsPrompt) (key : String) : ∃ result, group.Gives key result := by
  obtain ⟨run, index, rfl, quiet, rfl⟩ := descends.exists_run
  have nobody := secluded.nobody_left quiet prompt.ne_held
  have free : (run.state index).records.lookup key = none := by
    rw [(run.sound index).records_of_nobody nobody]
    rfl
  refine Group.exists_gives ⟨fun peer owns => ?_, ?_⟩ free
  · rw [secluded.nobody_at quiet] at owns
    cases owns
  · rw [GroupState.source_of_nature quiet.nature_eq]
    exact prompt _ key

/-- Nobody in it waits for a peer. -/
theorem Descends.stage?_ne (descends : Descends world group) (secluded : world.Secluded)
    (key : String) (peer : Peer) : group.stage? key ≠ some (.fetching peer) := by
  obtain ⟨run, index, rfl, quiet, rfl⟩ := descends.exists_run
  intro fetching
  obtain ⟨leader, present, _, ticket, phase⟩ := (stage?_eq_some (run.sound index)).mp fetching
  exact secluded.fetch_not_mem quiet peer _ _ (GroupRun.mem_calls_of_stage present phase)

end Group

end RingCache
