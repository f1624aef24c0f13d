import RingCache.Proofs.Group.Contents

/-!
# What is counted of values from the source

When a call of the source ends with a value, the pass that made the call returns the
value, one more value is counted, and so are the pairs that are forgotten when the value is
kept (`Group.Counts`). Nothing else changes these two counters. `Files` says so of a part of a
pass, from one stop to the next.
-/

namespace RingCache

/-- The octets that a call of the source gives. -/
def Outcome.octets? (outcome : Outcome) : Option Octets :=
  outcome.answer?.bind Except.toOption

theorem Outcome.octets?_eq_some {outcome : Outcome} {octets : Octets} :
    outcome.octets? = some octets ↔ outcome.answer? = some (.ok octets) := by
  rw [octets?]
  rcases outcome.answer? with _ | _ | given <;> simp [Except.toOption]

namespace GroupState

/-- How many values from the source a group has counted, and how many pairs that it has
forgotten. -/
def account (state : GroupState) : Nat × Nat :=
  (state.counters.localLoads, state.counters.evictions)

/-- The account when the value of a key is kept. -/
def accountWith (state : GroupState) (key : String) (value : Octets) : Nat × Nat :=
  (state.counters.localLoads + 1,
    state.counters.evictions + (state.cache.put key value).2.length)

/-- What a part of a pass counts that calls the source or does not. -/
structure Files (state : GroupState) (key : String) (pass : Pass) : Prop where
  /-- If the source gives a value at once, the pass returns it, and it is counted. -/
  value : ∀ outcome octets, state.SourceReplies key pass outcome →
    outcome.answer? = some (.ok octets) →
    pass.2.2 = .returned (.ok octets) ∧ pass.1.account = state.accountWith key octets
  /-- If it does not, nothing is counted. -/
  nothing : (∀ outcome octets, state.SourceReplies key pass outcome →
    outcome.answer? ≠ some (.ok octets)) → pass.1.account = state.account

variable {state : GroupState} {key : String} {outcome : Outcome} {octets : Octets} {pass : Pass}

/-- A part of a pass that does not call the source. -/
theorem Files.of_uncalled (uncalled : .load key ∉ pass.2.1)
    (same : pass.1.account = state.account) : state.Files key pass where
  value _ _ replies := absurd replies.1 uncalled
  nothing _ := same

/-- The call of the source ends with a value. -/
theorem loaded_value (state : GroupState) (key : String)
    (answered : outcome.answer? = some (.ok octets)) :
    (state.loaded key outcome).2 = .returned (.ok octets) ∧
      (state.loaded key outcome).1.account = state.accountWith key octets := by
  rw [loaded, answered]
  exact ⟨rfl, rfl⟩

/-- The call of the source ends without a value. -/
theorem loaded_nothing (state : GroupState) (key : String)
    (failed : ∀ octets, outcome.answer? ≠ some (.ok octets)) :
    (state.loaded key outcome).1.account = state.account := by
  unfold loaded
  split
  · rename_i value answered
    exact absurd answered (failed value)
  · rfl
  · rfl

/-- The source is called, and may answer at once. -/
theorem files_load (state : GroupState) (key : String) : state.Files key (state.load key) := by
  have called : .load key ∈ (state.load key).2.1 := by
    rw [(load_calls state key).1]
    exact List.mem_singleton_self _
  cases reply : state.source.load state.sourceCalls key with
  | held =>
      refine ⟨fun outcome octets replies => ?_, fun _ => ?_⟩
      · rw [SourceReplies, reply] at replies
        cases replies.2
      · rw [load]
        simp only [reply]
        rfl
  | now given =>
      let calling : GroupState := { state with sourceCalls := state.sourceCalls + 1 }
      have ends : state.load key =
          ((calling.loaded key given).1, [.load key], (calling.loaded key given).2) := by
        rw [load]
        simp only [reply, calling]
      refine ⟨fun outcome octets replies answered => ?_, fun silent => ?_⟩
      · obtain rfl : given = outcome := Reply.now.inj (reply.symm.trans replies.2)
        rw [ends]
        exact loaded_value calling key answered
      · rw [ends]
        exact loaded_nothing calling key fun octets => silent given octets ⟨called, reply⟩

/-- The fetch from a peer ends, and the source may be called. -/
theorem files_fetched (state : GroupState) (key : String) (outcome : Outcome) :
    state.Files key (state.fetched key outcome) := by
  unfold fetched
  split
  · exact .of_uncalled nofun rfl
  · have rest := files_load (state.count .peerError) key
    exact ⟨rest.value, rest.nothing⟩
  · exact .of_uncalled nofun rfl

/-- A pass starts. -/
theorem files_start (state : GroupState) (key : String) : state.Files key (state.start key) := by
  have picked {pass : Pass} (rest : (state.pick key).1.Files key pass) : state.Files key pass := by
    have frame := pick_frame state key
    rw [frame] at rest
    exact ⟨rest.value, rest.nothing⟩
  unfold start
  dsimp only
  split
  · exact picked (files_load _ key)
  · split
    · refine picked (.of_uncalled ?_ rfl)
      simp
    · rename_i peer _ _ outcome _
      have rest := picked (files_fetched (state.pick key).1 key outcome)
      have others {other : Outcome} : state.SourceReplies key
          (((state.pick key).1.fetched key outcome).1,
            .fetch peer state.name key :: ((state.pick key).1.fetched key outcome).2.1,
            ((state.pick key).1.fetched key outcome).2.2) other ↔
          state.SourceReplies key ((state.pick key).1.fetched key outcome) other := by
        rw [SourceReplies, SourceReplies, List.mem_cons]
        simp
      exact ⟨fun other octets replies => rest.value other octets (others.mp replies),
        fun silent => rest.nothing fun other octets replies =>
          silent other octets (others.mpr replies)⟩

end GroupState

namespace Group

/-- What a happening counts of values from the source. -/
structure Counts (group : Group) (happening : Happening (Option Picker) Unit) (next : Group)
    (notices : List (Notice Call Result)) : Prop where
  /-- If a call of the source ends with a value, the value is counted, and the pass that has made
  the call returns it. -/
  value : ∀ id key outcome octets, group.LoadEnds happening notices id key outcome →
    outcome.answer? = some (.ok octets) →
    next.world.account = group.world.accountWith key octets ∧
      .ended id key (.returned (.ok octets)) ∈ notices ∧
      ((∃ leader ∈ group.callers, leader.id = id ∧ leader.key = key ∧ leader.phase.isLeading) ∨
        group.Opens loads happening id key)
  /-- If none does, nothing is counted. -/
  nothing : (∀ id key outcome octets, group.LoadEnds happening notices id key outcome →
    outcome.answer? ≠ some (.ok octets)) → next.world.account = group.world.account

variable {group base next : Group} {happening : Happening (Option Picker) Unit}
  {notices : List (Notice Call Result)} {id : Nat} {key : String}

/-- Without a call of the source that ends, nothing is counted. -/
theorem Counts.of_silent
    (silent : ∀ id key outcome, ¬ group.LoadEnds happening notices id key outcome)
    (same : next.world.account = group.world.account) : group.Counts happening next notices where
  value id key outcome _ ends := absurd ends (silent id key outcome)
  nothing _ := same

/-- The only calls of the source that may end are those of one pass. -/
theorem Counts.of_pass {gives : Outcome → Prop}
    (ends : ∀ otherId otherKey outcome, group.LoadEnds happening notices otherId otherKey outcome ↔
      otherId = id ∧ otherKey = key ∧ gives outcome)
    (passes : (∃ leader ∈ group.callers,
        leader.id = id ∧ leader.key = key ∧ leader.phase.isLeading) ∨
      group.Opens loads happening id key)
    (value : ∀ outcome octets, gives outcome → outcome.answer? = some (.ok octets) →
      .ended id key (.returned (.ok octets)) ∈ notices ∧
        next.world.account = group.world.accountWith key octets)
    (nothing : (∀ outcome octets, gives outcome → outcome.answer? ≠ some (.ok octets)) →
      next.world.account = group.world.account) : group.Counts happening next notices where
  value otherId otherKey outcome octets isEnd answered := by
    obtain ⟨rfl, rfl, given⟩ := (ends otherId otherKey outcome).mp isEnd
    obtain ⟨ended, counted⟩ := value outcome octets given answered
    exact ⟨counted, ended, passes⟩
  nothing silent := nothing fun outcome octets given =>
    silent id key outcome octets ((ends id key outcome).mpr ⟨rfl, rfl, given⟩)

/-- Who enters finds the same account. -/
theorem account_of_entrant (entrant : Flight.Entrant loads group happening id key () base) :
    base.world.account = group.world.account := by
  cases entrant with
  | fresh key plan missed =>
      rw [show (loads.greet group.world key ()).1 = (group.world.count .get).count .load from
        (GroupState.greet_of_missed missed).2]
      rfl
  | woken caller present told => rfl

/-- A pass that starts. -/
theorem counts_of_start (entrant : Flight.Entrant loads group happening id key () base)
    (free : ∀ record ∈ base.records, record.1 ≠ key)
    {calls : List Call} {progress : Progress Stage Result}
    (started : base.world.start key = (next.world, calls, progress))
    (seen : ∀ otherId call, .called otherId call ∈ notices ↔ otherId = id ∧ call ∈ calls)
    (ended : ∀ result, progress = .returned result → .ended id key (.returned result) ∈ notices) :
    group.Counts happening next notices := by
  have files := GroupState.files_start base.world key
  rw [started] at files
  have sameAccount := account_of_entrant entrant
  have sameAccountWith (octets : Octets) :
      base.world.accountWith key octets = group.world.accountWith key octets := by
    obtain ⟨sameLoads, sameEvictions⟩ := Prod.mk.inj sameAccount
    rw [GroupState.accountWith, GroupState.accountWith, (kept_of_entrant entrant).1, sameLoads,
      sameEvictions]
  refine .of_pass (fun _ _ _ => loadEnds_iff_of_start entrant started seen)
    (.inr (entrant.opens free)) (fun outcome octets replies answered => ?_)
    fun silent => (files.nothing silent).trans sameAccount
  obtain ⟨returned, counted⟩ := files.value outcome octets replies answered
  exact ⟨ended _ returned, counted.trans (sameAccountWith octets)⟩

/-- A pass that goes on. -/
theorem counts_of_resume (sound : group.Sound) {leader : Caller Unit Stage Result}
    (present : leader ∈ group.callers) {ticket : Nat} {stage : Stage}
    (leads : leader.phase = .leading ticket stage) {outcome : Outcome}
    (finished : happening = .event (.finish leader.key outcome))
    {calls : List Call} {progress : Progress Stage Result}
    (resumed : group.world.resume leader.key stage outcome = (next.world, calls, progress))
    (seen : ∀ otherId call, .called otherId call ∈ notices ↔
      otherId = leader.id ∧ call ∈ calls)
    (ended : ∀ result, progress = .returned result →
      .ended leader.id leader.key (.returned result) ∈ notices) :
    group.Counts happening next notices := by
  have leading : ∃ caller ∈ group.callers,
      caller.id = leader.id ∧ caller.key = leader.key ∧ caller.phase.isLeading :=
    ⟨leader, present, rfl, rfl, by rw [leads]; rfl⟩
  cases stage with
  | loading =>
      have pass : (_, [], _) = (next.world, calls, progress) := resumed
      obtain ⟨sameWorld, rest⟩ := Prod.mk.inj pass
      obtain ⟨rfl, sameProgress⟩ := Prod.mk.inj rest
      have uncalled : ∀ otherId call, .called otherId call ∉ notices :=
        fun otherId call called => nomatch ((seen _ _).mp called).2
      refine .of_pass (fun _ _ _ => loadEnds_iff_of_loading sound present leads finished uncalled)
        (.inl leading) ?_ fun silent => ?_
      · rintro other octets rfl answered
        obtain ⟨returned, counted⟩ := GroupState.loaded_value group.world leader.key answered
        exact ⟨ended _ (sameProgress.symm.trans returned), sameWorld ▸ counted⟩
      · rw [← sameWorld]
        exact GroupState.loaded_nothing group.world leader.key fun octets =>
          silent outcome octets rfl
  | fetching peer =>
      have pass : group.world.fetched leader.key outcome = (next.world, calls, progress) := resumed
      have files := GroupState.files_fetched group.world leader.key outcome
      rw [pass] at files
      refine .of_pass
        (fun _ _ _ => loadEnds_iff_of_fetching sound present leads finished pass seen)
        (.inl leading) (fun other octets replies answered => ?_) files.nothing
      obtain ⟨returned, counted⟩ := files.value other octets replies answered
      exact ⟨ended _ returned, counted⟩

/-- A group in which no pass starts or goes on counts nothing. -/
theorem account_of_idles {reached : GroupState} (idles : group.Idles happening reached) :
    reached.account = group.world.account := by
  cases idles with
  | rests => rfl
  | equipped picker => rfl
  | shared => rfl
  | greeted key isStart =>
      cases answered : (group.world.greet key).2 with
      | none =>
          rw [(GroupState.greet_of_missed answered).2]
          rfl
      | some result =>
          rcases GroupState.greet_of_answered answered with ⟨_, _, same⟩ | ⟨_, _, _, _, _, counted⟩
          · rw [same]
          · rw [counted]
            rfl

/-- Every happening counts so. -/
theorem counts_of_effect (sound : group.Sound)
    (effect : Flight.Effect loads GroupState.equip group happening next notices) :
    group.Counts happening next notices := by
  cases course_of_effect effect with
  | idles uncalled unfinished world =>
      exact .of_silent (not_loadEnds uncalled unfinished) (account_of_idles world)
  | starts id key base entrant free calls progress started seen ended =>
      exact counts_of_start entrant free started seen ended
  | resumes leader present ticket stage leads outcome finished calls progress resumed seen ended =>
      exact counts_of_resume sound present leads finished resumed seen ended

/-! ## Values that are written -/

/-- Only one call of the source ends in a happening. -/
theorem LoadEnds.unique (sound : group.Sound)
    (effect : Flight.Effect loads GroupState.equip group happening next notices)
    {otherId : Nat} {otherKey : String} {outcome other : Outcome}
    (ends : group.LoadEnds happening notices id key outcome)
    (also : group.LoadEnds happening notices otherId otherKey other) :
    id = otherId ∧ key = otherKey ∧ outcome = other := by
  cases receipt_of_effect sound effect with
  | rests silent kept => exact absurd ends (silent id key outcome)
  | reads silent read value isStart isRead => exact absurd ends (silent id key outcome)
  | receives only onlyKey loaded? isEnd keeps =>
      obtain ⟨rfl, rfl, isOutcome⟩ := (isEnd id key outcome).mp ends
      obtain ⟨rfl, rfl, isOther⟩ := (isEnd otherId otherKey other).mp also
      exact ⟨rfl, rfl, Option.some.inj (isOutcome.symm.trans isOther)⟩

/-- The key and the value, if a notice shows a call of the source that gives a value at
once. -/
def replied? (group : Group) : Notice Call Result → Option (String × Octets)
  | .called _ (.load key) =>
      (group.world.source.load group.world.sourceCalls key).outcome?.bind fun outcome =>
        outcome.octets?.map fun octets => (key, octets)
  | _ => none

/-- The key and the value, if a call of the source that a pass waits for ends with a value. -/
def answered? (group : Group) : Happening (Option Picker) Unit → Option (String × Octets)
  | .event (.finish key outcome) =>
      match group.stage? key with
      | some .loading => outcome.octets?.map fun octets => (key, octets)
      | _ => none
  | _ => none

/-- The key and the value that are written in a happening, if a call of the source ends in it
with a value. -/
def written? (group : Group) (happening : Happening (Option Picker) Unit)
    (notices : List (Notice Call Result)) : Option (String × Octets) :=
  (notices.findSome? group.replied?).or (group.answered? happening)

theorem replied?_eq_some {notice : Notice Call Result} {octets : Octets} :
    group.replied? notice = some (key, octets) ↔
      ∃ id outcome, notice = .called id (.load key) ∧
        group.world.source.load group.world.sourceCalls key = .now outcome ∧
        outcome.answer? = some (.ok octets) := by
  rcases notice with ⟨id, _ | own⟩ | _
  · simp [replied?]
  · simp only [replied?, Option.bind_eq_some_iff, Option.map_eq_some_iff, Prod.mk.injEq,
      Reply.outcome?_eq_some, Outcome.octets?_eq_some, Notice.called.injEq, Call.load.injEq]
    constructor
    · rintro ⟨outcome, replied, _, answered, rfl, rfl⟩
      exact ⟨id, outcome, ⟨rfl, rfl⟩, replied, answered⟩
    · rintro ⟨_, outcome, ⟨_, rfl⟩, replied, answered⟩
      exact ⟨outcome, replied, octets, answered, rfl, rfl⟩
  · simp [replied?]

theorem answered?_eq_some {octets : Octets} :
    group.answered? happening = some (key, octets) ↔
      ∃ outcome, happening = .event (.finish key outcome) ∧ group.stage? key = some .loading ∧
        outcome.answer? = some (.ok octets) := by
  constructor
  · intro answered
    rw [answered?.eq_def] at answered
    split at answered
    · rename_i own outcome
      split at answered
      · rename_i isStage
        obtain ⟨given, isGiven, isPair⟩ := Option.map_eq_some_iff.mp answered
        obtain ⟨rfl, rfl⟩ := Prod.mk.inj isPair
        exact ⟨outcome, rfl, isStage, Outcome.octets?_eq_some.mp isGiven⟩
      · cases answered
    · cases answered
  · rintro ⟨outcome, rfl, isStage, answered⟩
    rw [answered?, isStage]
    dsimp only
    rw [Outcome.octets?_eq_some.mpr answered, Option.map_some]

/-- A value is written exactly if a call of the source for its key ends with it. -/
theorem written?_eq_some (sound : group.Sound)
    (effect : Flight.Effect loads GroupState.equip group happening next notices)
    {octets : Octets} :
    group.written? happening notices = some (key, octets) ↔
      ∃ id outcome, group.LoadEnds happening notices id key outcome ∧
        outcome.answer? = some (.ok octets) := by
  have ends {key : String} {octets : Octets}
      (written : group.written? happening notices = some (key, octets)) :
      ∃ id outcome, group.LoadEnds happening notices id key outcome ∧
        outcome.answer? = some (.ok octets) := by
    rcases Option.or_eq_some_iff.mp written with replied | ⟨_, answered⟩
    · obtain ⟨notice, seen, isReply⟩ := List.exists_of_findSome?_eq_some replied
      obtain ⟨id, outcome, rfl, isNow, gives⟩ := replied?_eq_some.mp isReply
      exact ⟨id, outcome, .atOnce seen isNow, gives⟩
    · obtain ⟨outcome, finished, isStage, gives⟩ := answered?_eq_some.mp answered
      obtain ⟨caller, present, sameKey, ticket, phase⟩ := (stage?_eq_some sound).mp isStage
      exact ⟨caller.id, outcome, .later ticket ⟨caller, present, rfl, sameKey, phase⟩ finished,
        gives⟩
  refine ⟨ends, ?_⟩
  rintro ⟨id, outcome, loadEnds, gives⟩
  have isSome : (group.written? happening notices).isSome := by
    rw [written?, Option.isSome_or, Bool.or_eq_true]
    cases loadEnds with
    | atOnce called replied =>
        have isReply := replied?_eq_some.mpr ⟨id, outcome, rfl, replied, gives⟩
        exact .inl (List.findSome?_isSome_iff.mpr ⟨_, called, by rw [isReply]; rfl⟩)
    | later ticket waits finished =>
        obtain ⟨caller, present, _, sameKey, phase⟩ := waits
        have isStage := (stage?_eq_some sound).mpr ⟨caller, present, sameKey, ticket, phase⟩
        exact .inr (by rw [answered?_eq_some.mpr ⟨outcome, finished, isStage, gives⟩]; rfl)
  obtain ⟨⟨otherKey, other⟩, written⟩ := Option.isSome_iff_exists.mp isSome
  obtain ⟨_, otherOutcome, otherEnds, otherGives⟩ := ends written
  obtain ⟨_, rfl, rfl⟩ := loadEnds.unique sound effect otherEnds
  rw [gives] at otherGives
  cases otherGives
  exact written

end Group

namespace GroupRun

variable {run : GroupRun} {index : Nat} {key : String} {octets : Octets}

/-- The key and the value that are written in a happening of a run, if there are such. -/
def written? (run : GroupRun) (index : Nat) : Option (String × Octets) :=
  Group.written? (run.state index) (run.happening index) (run.notices index)

theorem written?_eq_some : run.written? index = some (key, octets) ↔
    ∃ id outcome, run.LoadEnds index id key outcome ∧ outcome.answer? = some (.ok octets) :=
  Group.written?_eq_some (run.sound index) (run.effect index)

/-- A happening that writes nothing leaves the pairs that are kept, up to their order, and counts
nothing. -/
theorem of_unwritten (formed : (run.state index).world.cache.Formed)
    (unwritten : run.written? index = none) :
    (run.state (index + 1)).world.cache.entries.Perm (run.state index).world.cache.entries ∧
      (run.state (index + 1)).world.account = (run.state index).world.account := by
  have silent : ∀ id key outcome octets, run.LoadEnds index id key outcome →
      outcome.answer? ≠ some (.ok octets) := by
    intro id key outcome octets ends gives
    rw [written?_eq_some.mpr ⟨id, outcome, ends, gives⟩] at unwritten
    cases unwritten
  refine ⟨?_, (Group.counts_of_effect (run.sound index) (run.effect index)).nothing silent⟩
  cases Group.receipt_of_effect (run.sound index) (run.effect index) with
  | rests _ kept => rw [kept]
  | reads _ key value isStart read =>
      obtain ⟨front, back, split, moved⟩ := formed.get?_moves read
      rw [split, moved]
      exact List.perm_middle.symm
  | receives id key loaded? isEnd keeps =>
      rcases LocalCache.receive_cases (run.state index).world.cache key loaded? with
        ⟨outcome, value, isOutcome, gives, _⟩ | ⟨_, rests⟩
      · exact absurd gives (silent id key outcome value ((isEnd _ _ _).mpr ⟨rfl, rfl, isOutcome⟩))
      · rw [keeps, rests]

/-- What a happening does that writes a value. -/
structure Writes (run : GroupRun) (index : Nat) (key : String) (octets : Octets) (id : Nat) :
    Prop where
  /-- A call of the source has ended, which the pass of a lookup has made. -/
  ends : ∃ outcome, run.LoadEnds index id key outcome
  /-- The pass returns the value. -/
  publishes : ∃ ticket, run.Publishes index id key ticket (.ok octets)
  /-- The value is kept. -/
  kept : (run.state (index + 1)).world.cache =
    ((run.state index).world.cache.put key octets).1
  /-- It is counted, with the pairs that are forgotten. -/
  counted : (run.state (index + 1)).world.account =
    (run.state index).world.accountWith key octets

theorem writes_of_written (written : run.written? index = some (key, octets)) :
    ∃ id, run.Writes index key octets id := by
  obtain ⟨id, outcome, ends, gives⟩ := written?_eq_some.mp written
  obtain ⟨counted, ended, leads⟩ :=
    (Group.counts_of_effect (run.sound index) (run.effect index)).value id key outcome octets ends
      gives
  refine ⟨id, ⟨outcome, ends⟩, ?_, ?_, counted⟩
  · rcases leads with ⟨leader, present, isLeader, sameKey, leading⟩ | opens
    · obtain ⟨ticket, leads⟩ := Phase.isLeading_iff.mp leading
      exact ⟨ticket, ended, .inl ⟨leader, present, isLeader, sameKey, leads⟩⟩
    · exact ⟨_, ended, .inr ⟨opens, rfl⟩⟩
  · cases Group.receipt_of_effect (run.sound index) (run.effect index) with
    | rests silent kept => exact absurd ends (silent id key outcome)
    | reads silent read value isStart isRead => exact absurd ends (silent id key outcome)
    | receives only onlyKey loaded? isEnd keeps =>
        obtain ⟨rfl, rfl, rfl⟩ := (isEnd id key outcome).mp ends
        rw [LocalCache.receive, Option.bind_some, gives] at keeps
        exact keeps

end GroupRun

end RingCache
