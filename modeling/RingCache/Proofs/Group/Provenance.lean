import RingCache.Proofs.Group.Answers
import RingCache.Proofs.Group.Routing

/-!
# Where the results of lookups come from

The source answers a pass at once or after a wait (`LoadEnds`). A group keeps for
each key at most the value of the last of these calls that succeeded
(`lastLoaded_of_mem`), and a pass returns what its fetch or its call of the source
gave (`yields_of_publishes`). So every result can be traced to one fetch or one call
for the same key.
-/

namespace RingCache

namespace Group

/-- Whether a call of the source ends with an outcome in a happening: it answers at
once, or the call that a pass waits for ends. -/
inductive LoadEnds (group : Group) (happening : Happening (Option Picker) Unit)
    (notices : List (Notice Call Result)) (id : Nat) (key : String) (outcome : Outcome) :
    Prop where
  | atOnce (called : .called id (.load key) ∈ notices)
      (replied : group.world.source.load group.world.sourceCalls key = .now outcome)
  | later (ticket : Nat)
      (waits : ∃ caller ∈ group.callers,
        caller.id = id ∧ caller.key = key ∧ caller.phase = .leading ticket .loading)
      (finished : happening = .event (.finish key outcome))

/-- What a happening does to the cache of a group. -/
inductive Receipt (group : Group) (happening : Happening (Option Picker) Unit) (next : Group)
    (notices : List (Notice Call Result)) : Prop where
  /-- No call of the source ends, and the cache stays. -/
  | rests (silent : ∀ id key outcome, ¬ group.LoadEnds happening notices id key outcome)
      (kept : next.world.cache = group.world.cache)
  /-- No call of the source ends, and a lookup that comes reads a value. -/
  | reads (silent : ∀ id key outcome, ¬ group.LoadEnds happening notices id key outcome)
      (key : String) (value : Octets) (isStart : happening = .event (.start key ()))
      (read : group.world.cache.get? key = some (value, next.world.cache))
  /-- At most one call of the source ends, and its answer is kept. -/
  | receives (id : Nat) (key : String) (loaded? : Option Outcome)
      (ends : ∀ otherId otherKey outcome,
        group.LoadEnds happening notices otherId otherKey outcome ↔
          otherId = id ∧ otherKey = key ∧ loaded? = some outcome)
      (keeps : next.world.cache = group.world.cache.receive key loaded?)

variable {group base next : Group} {happening : Happening (Option Picker) Unit}
  {notices : List (Notice Call Result)} {id : Nat} {key : String}

/-- If nothing is called and no call ends, no call of the source ends. -/
theorem not_loadEnds (uncalled : ∀ id call, .called id call ∉ notices)
    (unfinished : ∀ key outcome, happening = .event (.finish key outcome) →
      ∀ caller ∈ group.callers, caller.key = key → caller.phase.isLeading = false)
    (id : Nat) (key : String) (outcome : Outcome) :
    ¬ group.LoadEnds happening notices id key outcome := by
  intro ends
  cases ends with
  | atOnce called => exact uncalled id _ called
  | later ticket waits finished =>
      obtain ⟨caller, present, _, sameKey, phase⟩ := waits
      have follows := unfinished key outcome finished caller present sameKey
      rw [phase] at follows
      cases follows

/-- Who enters finds the same cache and the same source. -/
theorem kept_of_entrant (entrant : Flight.Entrant loads group happening id key () base) :
    base.world.cache = group.world.cache ∧ base.world.source = group.world.source ∧
      base.world.sourceCalls = group.world.sourceCalls := by
  cases entrant with
  | fresh key plan missed =>
      rw [show (loads.greet group.world key ()).1 = (group.world.count .get).count .load from
        (GroupState.greet_of_missed missed).2]
      exact ⟨rfl, rfl, rfl⟩
  | woken caller present told => exact ⟨rfl, rfl, rfl⟩

/-- When a pass starts, a call of the source ends if the pass makes it and the source replies
at once. -/
theorem loadEnds_iff_of_start (entrant : Flight.Entrant loads group happening id key () base)
    {pass : Pass} (started : base.world.start key = pass)
    (seen : ∀ otherId call, .called otherId call ∈ notices ↔ otherId = id ∧ call ∈ pass.2.1)
    {otherId : Nat} {otherKey : String} {outcome : Outcome} :
    group.LoadEnds happening notices otherId otherKey outcome ↔
      otherId = id ∧ otherKey = key ∧ base.world.SourceReplies key pass outcome := by
  obtain ⟨_, sameSource, sameCalls⟩ := kept_of_entrant entrant
  obtain ⟨_, _, draws, _⟩ := GroupState.draws_start base.world key
  rw [started] at draws
  rw [GroupState.SourceReplies, sameSource, sameCalls]
  constructor
  · intro ends
    cases ends with
    | atOnce called replied =>
        obtain ⟨sameId, own⟩ := (seen _ _).mp called
        obtain rfl := draws.asks otherKey own
        exact ⟨sameId, rfl, own, replied⟩
    | later ticket waits finished => exact absurd finished (entrant.ne_finish _ _)
  · rintro ⟨rfl, rfl, own, replied⟩
    exact .atOnce ((seen _ _).mpr ⟨rfl, own⟩) replied

/-- A pass that starts. -/
theorem receipt_of_start (entrant : Flight.Entrant loads group happening id key () base)
    {calls : List Call} {progress : Progress Stage Result}
    (started : base.world.start key = (next.world, calls, progress))
    (seen : ∀ otherId call, .called otherId call ∈ notices ↔ otherId = id ∧ call ∈ calls) :
    group.Receipt happening next notices := by
  obtain ⟨fetched?, loaded?, draws, _, replies⟩ := GroupState.draws_start base.world key
  rw [started] at draws replies
  refine .receives id key loaded? (fun otherId otherKey outcome => ?_) ?_
  · rw [loadEnds_iff_of_start entrant started seen, replies]
  · rw [← (kept_of_entrant entrant).1]
    exact draws.keeps

/-- The only lookup whose call ends is the leader of the key. -/
theorem leader_of_finished (sound : group.Sound) {leader : Caller Unit Stage Result}
    (present : leader ∈ group.callers) {ticket own : Nat} {stage : Stage}
    (leads : leader.phase = .leading ticket stage) {outcome other : Outcome}
    (finished : happening = .event (.finish leader.key outcome))
    (waits : ∃ caller ∈ group.callers, caller.id = id ∧ caller.key = key ∧
      caller.phase = .leading own .loading)
    (alsoFinished : happening = .event (.finish key other)) :
    id = leader.id ∧ key = leader.key ∧ outcome = other ∧ stage = .loading := by
  obtain ⟨caller, callerPresent, rfl, rfl, phase⟩ := waits
  rw [finished] at alsoFinished
  obtain ⟨sameKey, rfl⟩ := Flight.Event.finish.inj (Happening.event.inj alsoFinished)
  obtain rfl := sound.sameLeader present callerPresent (by rw [leads]; rfl) (by rw [phase]; rfl)
    sameKey
  rw [leads] at phase
  exact ⟨rfl, rfl, rfl, (Phase.leading.inj phase).2⟩

/-- When a pass goes on that has waited for the source, the call of the source has ended. -/
theorem loadEnds_iff_of_loading (sound : group.Sound) {leader : Caller Unit Stage Result}
    (present : leader ∈ group.callers) {ticket : Nat}
    (leads : leader.phase = .leading ticket .loading) {outcome : Outcome}
    (finished : happening = .event (.finish leader.key outcome))
    (uncalled : ∀ otherId call, .called otherId call ∉ notices)
    {otherId : Nat} {otherKey : String} {other : Outcome} :
    group.LoadEnds happening notices otherId otherKey other ↔
      otherId = leader.id ∧ otherKey = leader.key ∧ outcome = other := by
  constructor
  · intro ends
    cases ends with
    | atOnce called => exact absurd called (uncalled _ _)
    | later own waits alsoFinished =>
        obtain ⟨sameId, sameKey, sameOutcome, _⟩ :=
          leader_of_finished sound present leads finished waits alsoFinished
        exact ⟨sameId, sameKey, sameOutcome⟩
  · rintro ⟨rfl, rfl, rfl⟩
    exact .later ticket ⟨leader, present, rfl, rfl, leads⟩ finished

/-- When a pass goes on that has waited for a peer, a call of the source ends if the pass makes
it and the source replies at once. -/
theorem loadEnds_iff_of_fetching (sound : group.Sound) {leader : Caller Unit Stage Result}
    (present : leader ∈ group.callers) {ticket : Nat} {peer : Peer}
    (leads : leader.phase = .leading ticket (.fetching peer)) {outcome : Outcome}
    (finished : happening = .event (.finish leader.key outcome)) {pass : Pass}
    (fetched : group.world.fetched leader.key outcome = pass)
    (seen : ∀ otherId call, .called otherId call ∈ notices ↔
      otherId = leader.id ∧ call ∈ pass.2.1)
    {otherId : Nat} {otherKey : String} {other : Outcome} :
    group.LoadEnds happening notices otherId otherKey other ↔
      otherId = leader.id ∧ otherKey = leader.key ∧
        group.world.SourceReplies leader.key pass other := by
  obtain ⟨_, draws, _⟩ := GroupState.draws_fetched group.world leader.key outcome
  rw [fetched] at draws
  constructor
  · intro ends
    cases ends with
    | atOnce called replied =>
        obtain ⟨sameId, own⟩ := (seen _ _).mp called
        obtain rfl := draws.asks otherKey own
        exact ⟨sameId, rfl, own, replied⟩
    | later own waits alsoFinished =>
        exact nomatch (leader_of_finished sound present leads finished waits alsoFinished).2.2.2
  · rintro ⟨rfl, rfl, own, replied⟩
    exact .atOnce ((seen _ _).mpr ⟨rfl, own⟩) replied

/-- A pass that goes on. -/
theorem receipt_of_resume (sound : group.Sound) {leader : Caller Unit Stage Result}
    (present : leader ∈ group.callers) {ticket : Nat} {stage : Stage}
    (leads : leader.phase = .leading ticket stage) {outcome : Outcome}
    (finished : happening = .event (.finish leader.key outcome))
    {calls : List Call} {progress : Progress Stage Result}
    (resumed : group.world.resume leader.key stage outcome = (next.world, calls, progress))
    (seen : ∀ otherId call, .called otherId call ∈ notices ↔
      otherId = leader.id ∧ call ∈ calls) :
    group.Receipt happening next notices := by
  cases stage with
  | loading =>
      have draws := GroupState.draws_loaded group.world leader.key outcome
      have pass : (_, [], _) = (next.world, calls, progress) := resumed
      obtain ⟨sameWorld, rest⟩ := Prod.mk.inj pass
      obtain ⟨rfl, _⟩ := Prod.mk.inj rest
      refine .receives leader.id leader.key (some outcome)
        (fun otherId otherKey other => ?_) (sameWorld ▸ draws.keeps)
      have uncalled : ∀ otherId call, .called otherId call ∉ notices :=
        fun otherId call called => nomatch ((seen _ _).mp called).2
      rw [loadEnds_iff_of_loading sound present leads finished uncalled, Option.some.injEq]
  | fetching peer =>
      obtain ⟨loaded?, draws, replies⟩ :=
        GroupState.draws_fetched group.world leader.key outcome
      have pass : group.world.fetched leader.key outcome = (next.world, calls, progress) := resumed
      rw [pass] at draws replies
      refine .receives leader.id leader.key loaded? (fun otherId otherKey other => ?_) draws.keeps
      rw [loadEnds_iff_of_fetching sound present leads finished pass seen, replies]

/-- How a group changes when no pass starts or goes on. -/
inductive Idles (group : Group) (happening : Happening (Option Picker) Unit) :
    GroupState → Prop where
  /-- Not at all. -/
  | rests : Idles group happening group.world
  /-- Its picker is changed. -/
  | equipped (picker : Option Picker) : Idles group happening (group.world.equip picker)
  /-- A lookup comes. -/
  | greeted (key : String) (isStart : happening = .event (.start key ())) :
      Idles group happening (group.world.greet key).1
  /-- A lookup receives the result of another one's pass. -/
  | shared : Idles group happening (group.world.count .sharedLoad)

/-- What a happening is for the passes of a group. -/
inductive Course (group : Group) (happening : Happening (Option Picker) Unit) (next : Group)
    (notices : List (Notice Call Result)) : Prop where
  /-- No pass starts or goes on. -/
  | idles (uncalled : ∀ id call, .called id call ∉ notices)
      (unfinished : ∀ key outcome, happening = .event (.finish key outcome) →
        ∀ caller ∈ group.callers, caller.key = key → caller.phase.isLeading = false)
      (world : group.Idles happening next.world)
  /-- A pass starts. -/
  | starts (id : Nat) (key : String) (base : Group)
      (entrant : Flight.Entrant loads group happening id key () base)
      (free : ∀ record ∈ base.records, record.1 ≠ key)
      (calls : List Call) (progress : Progress Stage Result)
      (started : base.world.start key = (next.world, calls, progress))
      (seen : ∀ otherId call, .called otherId call ∈ notices ↔ otherId = id ∧ call ∈ calls)
      (ended : ∀ result, progress = .returned result → .ended id key (.returned result) ∈ notices)
  /-- A pass goes on. -/
  | resumes (leader : Caller Unit Stage Result) (present : leader ∈ group.callers) (ticket : Nat)
      (stage : Stage) (leads : leader.phase = .leading ticket stage) (outcome : Outcome)
      (finished : happening = .event (.finish leader.key outcome))
      (calls : List Call) (progress : Progress Stage Result)
      (resumed : group.world.resume leader.key stage outcome = (next.world, calls, progress))
      (seen : ∀ otherId call, .called otherId call ∈ notices ↔ otherId = leader.id ∧ call ∈ calls)
      (ended : ∀ result, progress = .returned result →
        .ended leader.id leader.key (.returned result) ∈ notices)

/-- The calls that a lookup is seen to make. -/
theorem called_mem_calls {calls : List Call} {otherId : Nat} {call : Call} :
    (Notice.called otherId call : Notice Call Result) ∈ calls.map (.called id) ↔
      otherId = id ∧ call ∈ calls := by
  simp only [List.mem_map, Notice.called.injEq]
  exact ⟨fun ⟨_, own, sameId, sameCall⟩ => ⟨sameId.symm, sameCall ▸ own⟩,
    fun ⟨sameId, own⟩ => ⟨call, own, sameId.symm, rfl⟩⟩

/-- They are the same if the lookup is seen to end. -/
theorem called_mem_calls_ended {calls : List Call} {ending : Ending Result} {otherId : Nat}
    {call : Call} :
    Notice.called otherId call ∈ calls.map (.called id) ++ [.ended id key ending] ↔
      otherId = id ∧ call ∈ calls := by
  rw [List.mem_append, called_mem_calls]
  simp

/-- A pass that returns is seen to end. -/
theorem ended_mem_of_returned {calls : List Call} {progress : Progress Stage Result}
    {ending : Ending Result} (ends : progress.ending? = some ending) {result : Result}
    (returned : progress = .returned result) :
    .ended id key (.returned result) ∈
      calls.map (.called id) ++ [Notice.ended id key ending] := by
  rw [returned] at ends
  cases ends
  exact List.mem_append_right _ (List.mem_singleton_self _)

/-- Every happening is one of these. -/
theorem course_of_effect
    (effect : Flight.Effect loads GroupState.equip group happening next notices) :
    group.Course happening next notices := by
  cases effect with
  | idle happening moot =>
      refine .idles (fun id call => List.not_mem_nil) ?_ .rests
      rintro key outcome rfl
      exact moot
  | acted change =>
      exact .idles (fun id call => List.not_mem_nil) nofun (.equipped change)
  | answered key plan result greeted =>
      exact .idles (by simp) nofun (.greeted key rfl)
  | @joined happening id key plan base entrant ticket found =>
      refine .idles (fun id call => List.not_mem_nil) ?_ ?_
      · exact fun _ _ finished => absurd finished (entrant.ne_finish _ _)
      · cases entrant with
        | fresh key plan missed => exact .greeted key rfl
        | woken caller present told => exact .rests
  | opened entrant free world calls stage started =>
      exact .starts _ _ _ entrant free calls _ started (fun _ _ => called_mem_calls) nofun
  | passed entrant free world calls progress ending started ends =>
      exact .starts _ _ _ entrant free calls progress started (fun _ _ => called_mem_calls_ended)
        fun _ returned => ended_mem_of_returned ends returned
  | advanced leader present ticket stage leads outcome world calls later resumed =>
      exact .resumes leader present ticket stage leads outcome rfl calls _ resumed
        (fun _ _ => called_mem_calls) nofun
  | concluded leader present ticket stage leads outcome world calls progress ending resumed ends =>
      exact .resumes leader present ticket stage leads outcome rfl calls progress resumed
        (fun _ _ => called_mem_calls_ended) fun _ returned => ended_mem_of_returned ends returned
  | abandoned leader present ticket stage leads =>
      exact .idles (by simp) nofun .rests
  | shared caller present result told => exact .idles (by simp) nofun .shared
  | withdrawn happening caller present follows cancelled =>
      refine .idles (by simp) ?_ .rests
      intro key outcome finished
      rw [finished] at cancelled
      rcases cancelled with ⟨isCancel, _⟩ | isWithdraw
      · cases isCancel
      · cases isWithdraw

/-- Every happening does one of these to the cache. -/
theorem receipt_of_effect (sound : group.Sound)
    (effect : Flight.Effect loads GroupState.equip group happening next notices) :
    group.Receipt happening next notices := by
  cases course_of_effect effect with
  | idles uncalled unfinished world =>
      have silent := not_loadEnds uncalled unfinished
      generalize isWorld : next.world = reached at world
      cases world with
      | rests => exact .rests silent (by rw [isWorld])
      | equipped picker => exact .rests silent (by rw [isWorld]; rfl)
      | shared => exact .rests silent (by rw [isWorld]; rfl)
      | greeted key isStart =>
          cases answered : (group.world.greet key).2 with
          | none =>
              rw [(GroupState.greet_of_missed answered).2] at isWorld
              exact .rests silent (by rw [isWorld]; rfl)
          | some result =>
              rcases GroupState.greet_of_answered answered with
                ⟨_, _, same⟩ | ⟨_, value, cache, read, _, counted⟩
              · exact .rests silent (by rw [isWorld, same])
              · rw [counted] at isWorld
                exact .reads silent key value isStart (by rw [isWorld]; exact read)
  | starts id key base entrant free calls progress started seen ended =>
      exact receipt_of_start entrant started seen
  | resumes leader present ticket stage leads outcome finished calls progress resumed seen ended =>
      exact receipt_of_resume sound present leads finished resumed seen

end Group

namespace GroupRun

/-- Whether a call of the source ends with an outcome, which a lookup's pass has made
for a key. -/
def LoadEnds (run : GroupRun) (index id : Nat) (key : String) (outcome : Outcome) : Prop :=
  Group.LoadEnds (run.state index) (run.happening index) (run.notices index) id key outcome

/-- Whether the last call of the source for a key that succeeded before a time gave a
value. -/
def LastLoaded (run : GroupRun) (index : Nat) (key : String) (value : Octets) : Prop :=
  ∃ time < index, ∃ id outcome, run.LoadEnds time id key outcome ∧
    outcome.answer? = some (.ok value) ∧
    ∀ later, time ≤ later → later < index → ∀ otherId other octets,
      run.LoadEnds later otherId key other → other.answer? = some (.ok octets) →
      later = time ∧ otherId = id ∧ octets = value

/-- Whether a fetch or a call of the source for a key, made by the pass of a lookup,
ends and gives a result. -/
inductive Yields (run : GroupRun) (index id : Nat) (key : String) (result : Result) : Prop where
  | fetched (peer : Peer) (outcome : Outcome)
      (called : .fetch peer run.world.name key ∈ run.calls id (index + 1))
      (ends : run.FetchEnds index id outcome) (gives : outcome.fetched? = some result)
  | loaded (outcome : Outcome) (called : .load key ∈ run.calls id (index + 1))
      (ends : run.LoadEnds index id key outcome) (gives : outcome.loaded? = some result)

variable {run : GroupRun} {index id ticket : Nat} {key : String} {value : Octets}
  {result : Result}

/-! ## Values that are kept -/

theorem LastLoaded.next (last : run.LastLoaded index key value)
    (silent : ∀ id outcome octets, run.LoadEnds index id key outcome →
      outcome.answer? ≠ some (.ok octets)) : run.LastLoaded (index + 1) key value := by
  obtain ⟨time, before, id, outcome, ends, succeeds, only⟩ := last
  refine ⟨time, Nat.lt_succ_of_lt before, id, outcome, ends, succeeds, ?_⟩
  intro later since within otherId other octets otherEnds otherSucceeds
  rcases Nat.lt_succ_iff_lt_or_eq.mp within with earlier | rfl
  · exact only later since earlier otherId other octets otherEnds otherSucceeds
  · exact absurd otherSucceeds (silent otherId other octets otherEnds)

/-- Whatever a group keeps for a key is the value of the last call of the source for
the key that succeeded. -/
theorem lastLoaded_of_mem (empty : run.world.cache.store = none) {pair : String × Octets}
    (mem : pair ∈ (run.state index).world.cache.entries) :
    run.LastLoaded index pair.1 pair.2 := by
  induction index generalizing pair with
  | zero =>
      have nothing : (run.state 0).world.cache.entries = [] := by
        rw [LocalCache.entries, show (run.state 0).world.cache.store = none from empty]
        rfl
      rw [nothing] at mem
      cases mem
  | succ index inductionHypothesis =>
      have formed := run.formed empty index
      cases Group.receipt_of_effect (run.sound index) (run.effect index) with
      | rests silent kept =>
          rw [kept] at mem
          exact (inductionHypothesis mem).next fun id outcome _ ends =>
            absurd ends (silent id pair.1 outcome)
      | reads silent key value isStart read =>
          have before := (formed.entries_get? read).2 pair mem
          exact (inductionHypothesis before).next fun id outcome _ ends =>
            absurd ends (silent id pair.1 outcome)
      | receives id key loaded? ends keeps =>
          rcases LocalCache.receive_cases (run.state index).world.cache key loaded? with
            ⟨outcome, value, rfl, succeeds, isCache⟩ | ⟨fails, isCache⟩
          · rw [keeps, isCache] at mem
            rcases formed.entries_put key value mem with rfl | ⟨before, differs⟩
            · refine ⟨index, Nat.lt_succ_self _, id, outcome, (ends _ _ _).mpr ⟨rfl, rfl, rfl⟩,
                succeeds, ?_⟩
              intro later since within otherId other octets otherEnds otherSucceeds
              obtain rfl : later = index := Nat.le_antisymm (Nat.le_of_lt_succ within) since
              obtain ⟨sameId, _, isOther⟩ := (ends _ _ _).mp otherEnds
              rw [← Option.some.inj isOther, succeeds] at otherSucceeds
              exact ⟨rfl, sameId, (Except.ok.inj (Option.some.inj otherSucceeds)).symm⟩
            · -- The call that has ended was for the key of the new pair, which is another one.
              refine (inductionHypothesis before).next fun otherId other _ otherEnds => ?_
              exact absurd ((ends _ _ _).mp otherEnds).2.1 differs
          · rw [keeps, isCache] at mem
            refine (inductionHypothesis mem).next fun otherId other octets otherEnds => ?_
            exact fails other octets ((ends _ _ _).mp otherEnds).2.2

/-! ## Results of passes -/

/-- What is seen to be called has been called. -/
theorem mem_calls_of_noticed {call : Call} (called : .called id call ∈ run.notices index) :
    call ∈ run.calls id (index + 1) := by
  rw [Run.calls_succ]
  exact List.mem_append_right _ (List.mem_filterMap.mpr ⟨_, called, if_pos rfl⟩)

/-- A pass has made the call that it waits for. -/
theorem mem_calls_of_stage {caller : Caller Unit Stage Result}
    (present : caller ∈ (run.state index).callers) {stage : Stage}
    (leads : caller.phase = .leading ticket stage) :
    stage.call run.world.name caller.key ∈ run.calls caller.id (index + 1) := by
  have last := getLast?_calls present
  rw [Caller.call?, leads] at last
  rw [Run.calls_succ]
  exact List.mem_append_left _ (List.mem_of_getLast? last)

/-- A pass that is seen to end with a result has this result. -/
theorem returned_of_ended {notices : List (Notice Call Result)} {calls : List Call}
    {progress : Progress Stage Result} {ending : Ending Result} {other : Nat} {otherKey : String}
    (only : notices = calls.map (.called id) ++ [.ended id key ending])
    (ends : progress.ending? = some ending)
    (ended : .ended other otherKey (.returned result) ∈ notices) :
    progress = .returned result := by
  rw [only] at ended
  rcases Flight.of_mem_calls_end ended with ⟨call, isCall⟩ | isEnd
  · cases isCall
  · obtain ⟨_, _, rfl⟩ := Notice.ended.inj isEnd
    cases progress with
    | blocked stage => cases ends
    | returned own => rw [Ending.returned.inj (Option.some.inj ends)]
    | crashed => cases ends

/-- A pass that ends with a result as it starts has it from its fetch or its call of
the source. -/
theorem yields_of_opens (opens : run.Opens index id key ticket)
    (ended : .ended id key (.returned result) ∈ run.notices index) :
    run.Yields index id key result := by
  obtain ⟨_, base, entrant, _, world, calls, progress, started, _,
    ⟨stage, _, _, only⟩ | ⟨ending, ends, _, _, only⟩⟩ :=
    opens.1.happen_cases GroupState.equip (run.sound index)
  · rw [show run.notices index = calls.map (.called id) from only] at ended
    obtain ⟨call, isCall⟩ := Flight.of_mem_calls ended
    cases isCall
  · have seen : run.notices index = calls.map (.called id) ++ [.ended id key ending] := only
    have returned := returned_of_ended seen ends ended
    obtain ⟨fetched?, loaded?, draws, fetches, replies⟩ :=
      GroupState.draws_start base.world key
    rw [show base.world.start key = (world, calls, progress) from started] at draws replies
    rcases draws.returns result returned with fetched | loaded
    · obtain ⟨outcome, isOutcome, gives⟩ := Option.bind_eq_some_iff.mp fetched
      obtain ⟨peer, named, replied⟩ := fetches outcome isOutcome
      rw [owner?_of_entrant entrant] at named
      rw [(world_of_entrant entrant).1] at replied
      refine .fetched peer outcome ?_ (.atOnce key ticket peer opens named replied) gives
      rw [← (run.named index).1]
      rcases calls_of_named opens named (Nat.lt_succ_self index) with ⟨_, called⟩ | ⟨_, called⟩ <;>
        rw [called] <;> exact List.mem_cons_self
    · obtain ⟨outcome, isOutcome, gives⟩ := Option.bind_eq_some_iff.mp loaded
      obtain ⟨own, replied⟩ := (replies outcome).mp isOutcome
      obtain ⟨_, sameSource, sameCalls⟩ := Group.kept_of_entrant entrant
      rw [sameSource, sameCalls] at replied
      have called : .called id (.load key) ∈ run.notices index := by
        rw [seen]
        exact List.mem_append_left _ (List.mem_map_of_mem own)
      exact .loaded outcome (mem_calls_of_noticed called) (.atOnce called replied) gives

/-- A pass that goes on and ends with a result has it from the call that has ended, or
from a call of the source that follows. -/
theorem yields_of_leads (leads : run.Leads index id key ticket)
    (ended : .ended id key (.returned result) ∈ run.notices index) :
    run.Yields index id key result := by
  obtain ⟨leader, present, rfl, rfl, stage, phase⟩ := leads
  rcases (run.effect index).fate_of_leader (run.sound index) present phase with
    ⟨_, silent, _⟩ |
      ⟨outcome, world, calls, progress, finished, resumed, _,
        ⟨later, _, _, only⟩ | ⟨ending, ends, _, only⟩⟩ | ⟨_, _, only⟩
  · exact absurd rfl (silent _ ended)
  · rw [only] at ended
    obtain ⟨call, isCall⟩ := Flight.of_mem_calls ended
    cases isCall
  · have returned := returned_of_ended only ends ended
    have called := mem_calls_of_stage present phase
    cases stage with
    | loading =>
        have draws := GroupState.draws_loaded (run.state index).world leader.key outcome
        rw [show (_, [], _) = (world, calls, progress) from resumed] at draws
        rcases draws.returns result returned with fetched | loaded
        · cases fetched
        · exact .loaded outcome called
            (.later ticket ⟨leader, present, rfl, rfl, phase⟩ finished) loaded
    | fetching peer =>
        obtain ⟨loaded?, draws, replies⟩ :=
          GroupState.draws_fetched (run.state index).world leader.key outcome
        rw [show (run.state index).world.fetched leader.key outcome = (world, calls, progress)
          from resumed] at draws replies
        rcases draws.returns result returned with fetched | loaded
        · exact .fetched peer outcome called
            (.later leader.key ticket peer ⟨leader, present, rfl, rfl, phase⟩ finished) fetched
        · obtain ⟨other, isOther, gives⟩ := Option.bind_eq_some_iff.mp loaded
          obtain ⟨own, replied⟩ := (replies other).mp isOther
          have noticed : .called leader.id (.load leader.key) ∈ run.notices index := by
            rw [only]
            exact List.mem_append_left _ (List.mem_map_of_mem own)
          exact .loaded other (mem_calls_of_noticed noticed) (.atOnce noticed replied) gives
  · rw [only] at ended
    cases List.mem_singleton.mp ended

/-- A pass returns what its fetch or its call of the source gave. -/
theorem yields_of_publishes (publishes : run.Publishes index id key ticket result) :
    run.Yields index id key result := by
  obtain ⟨ended, leads | opens⟩ := publishes
  · exact yields_of_leads leads ended
  · exact yields_of_opens opens ended

/-! ## Results of lookups -/

/-- Whether a lookup received the result of a pass of its key that was in flight while
the lookup was there, and that had the result from its own fetch or call of the
source. -/
def Traces (run : GroupRun) (index id : Nat) (key : String) (result : Result) : Prop :=
  ∃ ticket time leader, run.Receives index id key ticket result ∧ time ≤ index ∧
    run.Publishes time leader key ticket result ∧ run.Yields time leader key result ∧
    ∃ moment ≤ index, run.Overlaps moment id key ticket

/-- Whoever receives a result can trace it. -/
theorem traces_of_receives (receives : run.Receives index id key ticket result) :
    run.Traces index id key result := by
  obtain ⟨_, _, _, _, overlaps⟩ := receives.published
  obtain ⟨time, leader, before, publishes⟩ := receives.has_published
  exact ⟨ticket, time, leader, receives, before, publishes, yields_of_publishes publishes, overlaps⟩

/-- A lookup that is answered at once has no key, or gets the value of the last call of
the source for its key that succeeded. -/
theorem lastLoaded_of_answers (empty : run.world.cache.store = none)
    (answers : run.Answers index id key result) :
    (key = "" ∧ result = .error .emptyKey) ∨
      ∃ value, result = .ok value ∧ run.LastLoaded index key value := by
  obtain ⟨_, plan, _, greeted⟩ := answers
  rcases GroupState.greet_of_answered greeted with
    ⟨unnamed, isFailure, _⟩ | ⟨_, value, cache, read, isValue, _⟩
  · exact .inl ⟨by simpa using unnamed, isFailure⟩
  · have listed := ((run.formed empty index).entries_get? read).1
    exact .inr ⟨value, isValue, lastLoaded_of_mem empty listed⟩

/-- If the source is a function, and peers give no other values, then every lookup with
a key that returns returns what the function gives for its key. -/
theorem result_of_pure (empty : run.world.cache.store = none)
    (function : String → Except String Octets)
    (loads : ∀ time loader asked outcome answer, run.LoadEnds time loader asked outcome →
      outcome.answer? = some answer → answer = function asked)
    (fetches : ∀ time fetcher peer asked outcome octets,
      .fetch peer run.world.name asked ∈ run.calls fetcher (time + 1) →
      run.FetchEnds time fetcher outcome → outcome.result? = some (.ok octets) →
      function asked = .ok octets)
    (named : key ≠ "") (ended : .ended id key (.returned result) ∈ run.notices index) :
    result = (function key).mapError .loader := by
  rcases Run.receives_of_ended ended with answers | ⟨ticket, receives⟩
  · rcases lastLoaded_of_answers empty answers with
      ⟨unnamed, _⟩ | ⟨value, rfl, time, _, loader, outcome, ends, succeeds, _⟩
    · exact absurd unnamed named
    · rw [← loads time loader key outcome (.ok value) ends succeeds]
      rfl
  · obtain ⟨_, time, leader, _, _, _, yields, _⟩ := traces_of_receives receives
    cases yields with
    | fetched peer outcome called ends gives =>
        obtain ⟨octets, succeeds, rfl⟩ := Outcome.fetched?_eq_some.mp gives
        rw [fetches time leader peer key outcome octets called ends succeeds]
        rfl
    | loaded outcome called ends gives =>
        obtain ⟨answer, isAnswer, rfl⟩ := Option.map_eq_some_iff.mp gives
        rw [loads time leader key outcome answer ends isAnswer]

/-- In every run of a group, a lookup that is answered at once fails for want of a key,
or is a hit and gets the value of the last call of the source for its key that
succeeded. Every other result of a lookup is the result of a pass of its key that was
in flight while the lookup was there, and which that pass had from its fetch of the
group's key or from its call of the source for the key. In particular, if the source
is a function of the key and no peer gives another value, then every lookup with a
key that returns returns what the function gives for its key. -/
theorem results_come_from_own_key (name : String) (budget : Nat) (source : Source)
    (happening : Nat → Happening (Option Picker) Unit) :
    let run : GroupRun := .create name budget source happening
    (∀ index id key result, run.Answers index id key result →
        (key = "" ∧ result = .error .emptyKey) ∨
          ∃ value, result = .ok value ∧ run.LastLoaded index key value) ∧
      (∀ index id key result, .ended id key (.returned result) ∈ run.notices index →
        run.Answers index id key result ∨ run.Traces index id key result) ∧
      ∀ function : String → Except String Octets,
        (∀ index id key outcome answer, run.LoadEnds index id key outcome →
          outcome.answer? = some answer → answer = function key) →
        (∀ index id peer key outcome value, .fetch peer name key ∈ run.calls id (index + 1) →
          run.FetchEnds index id outcome → outcome.result? = some (.ok value) →
          function key = .ok value) →
        ∀ index id key result, key ≠ "" → .ended id key (.returned result) ∈ run.notices index →
          result = (function key).mapError .loader := by
  intro run
  refine ⟨fun index id key result answers => lastLoaded_of_answers rfl answers, ?_, ?_⟩
  · intro index id key result ended
    rcases Run.receives_of_ended ended with answers | ⟨ticket, receives⟩
    · exact .inl answers
    · exact .inr (traces_of_receives receives)
  · intro function loads fetches index id key result named ended
    exact result_of_pure rfl function loads fetches named ended

end GroupRun

end RingCache
