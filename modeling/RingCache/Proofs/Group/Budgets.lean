import RingCache.Proofs.Flight.Gatherings
import RingCache.Proofs.Group.Contents
import RingCache.Proofs.Group.Functions
import RingCache.Proofs.Recency.Prefixes

/-!
# Larger budgets

Lookups come one after the other to a group without peers whose source follows a function,
at once or after a wait. Then what the group keeps is known from the keys alone: the pairs of
the distinct keys that succeeded, in the order of their last lookups, as far as they keep the
budget (`Keeps`). A larger budget keeps a longer prefix of the same list, so that it hits
whenever the smaller one does (`larger_budget_hits_more`). A budget of zero is no limit, and
so is not the smallest but the largest one (`zero_budget_hits_more`).
-/

namespace RingCache

open Recency

namespace Source

/-- Whether every call of a source for a key ends with what a function gives, at once or
after a wait. -/
def Follows (source : Source) (function : String → Except String Octets) : Prop :=
  ∀ calls key, source.load calls key = .held ∨
    ∃ outcome, source.load calls key = .now outcome ∧ outcome.answer? = some (function key)

/-- How a call ends that was held. -/
def outcome (function : String → Except String Octets) (key : String) : Outcome :=
  match function key with
  | .ok value => .value value
  | .error text => .chain [text]

/-- The value with which a lookup of a key succeeds, if it does. -/
def success? (function : String → Except String Octets) (key : String) : Option Octets :=
  if key = "" then none else (function key).toOption

/-- The distinct keys whose lookups succeeded, the one looked up last in front, with their
values. -/
def recent (function : String → Except String Octets) (keys : List String) : Pairs Octets :=
  keys.reverse.eraseDups.filterMap fun key => (success? function key).map fun value => (key, value)

variable {function : String → Except String Octets} {key : String} {keys : List String}

theorem answer?_outcome (function : String → Except String Octets) (key : String) :
    (outcome function key).answer? = some (function key) := by
  rw [outcome]
  cases function key with
  | ok value => rfl
  | error text => simp [Outcome.answer?, Outcome.joined]

/-- A source that is a function follows it. -/
theorem follows_ofFunction (function : String → Except String Octets) :
    (ofFunction function).Follows function :=
  fun calls key => .inr (ofFunction_load function calls key)

theorem success?_eq_some {value : Octets} :
    success? function key = some value ↔ key ≠ "" ∧ function key = .ok value := by
  rw [success?]
  split
  · rename_i unnamed
    simp [unnamed]
  · rename_i named
    cases function key <;> simp [named, Except.toOption]

/-! ## Distinct keys -/

/-- Dropping repetitions and choosing elements can be done in either order. -/
theorem eraseDups_filter (chosen : String → Bool) (keys : List String) :
    (keys.filter chosen).eraseDups = keys.eraseDups.filter chosen := by
  cases keys with
  | nil => rfl
  | cons key rest =>
      have others := eraseDups_filter chosen (rest.filter fun other => !other == key)
      rw [List.eraseDups_cons]
      by_cases isChosen : chosen key
      · rw [List.filter_cons_of_pos isChosen, List.filter_cons_of_pos isChosen,
          List.eraseDups_cons, ← others, List.filter_filter, List.filter_filter]
        simp only [Bool.and_comm]
      · rw [List.filter_cons_of_neg isChosen, List.filter_cons_of_neg isChosen, ← others,
          List.filter_filter]
        refine congrArg _ (List.filter_congr fun other _ => ?_)
        by_cases same : other = key
        · simp [same, isChosen]
        · simp [same]
termination_by keys.length
decreasing_by
  have bound := List.length_filter_le (fun other => !other == key) rest
  rw [List.length_cons]
  omega

/-- Without repetitions, every key occurs once. -/
theorem nodup_eraseDups (keys : List String) : keys.eraseDups.Nodup := by
  cases keys with
  | nil => exact List.nodup_nil
  | cons key rest =>
      rw [List.eraseDups_cons]
      refine List.nodup_cons.mpr ⟨fun again => ?_, nodup_eraseDups _⟩
      have differs := (List.mem_filter.mp (List.mem_eraseDups.mp again)).2
      simp at differs
termination_by keys.length
decreasing_by
  have bound := List.length_filter_le (fun other => !other == key) rest
  rw [List.length_cons]
  omega

/-- A key that is looked up comes to the front, if its lookup succeeds. -/
theorem recent_concat (function : String → Except String Octets) (keys : List String)
    (key : String) :
    recent function (keys ++ [key]) =
      match success? function key with
      | some value => (key, value) :: (recent function keys).without key
      | none => recent function keys := by
  rw [recent, List.reverse_concat, List.eraseDups_cons, eraseDups_filter, List.filterMap_cons]
  cases success : success? function key with
  | some value =>
      rw [recent, Pairs.without, List.filter_filterMap, List.filterMap_filter]
      refine congrArg _ (List.filterMap_congr fun other _ => ?_)
      cases success? function other with
      | some found => by_cases same : other = key <;> simp [same, Option.filter]
      | none => simp
  | none =>
      rw [recent, List.filterMap_filter]
      refine List.filterMap_congr fun other _ => ?_
      by_cases same : other = key
      · simp [same, success]
      · simp [same]

theorem mem_recent {pair : String × Octets} (mem : pair ∈ recent function keys) :
    success? function pair.1 = some pair.2 := by
  obtain ⟨key, _, isPair⟩ := List.mem_filterMap.mp mem
  obtain ⟨value, success, rfl⟩ := Option.map_eq_some_iff.mp isPair
  exact success

/-- The keys differ. -/
theorem nodup_recent (function : String → Except String Octets) (keys : List String) :
    ((recent function keys).map Prod.fst).Nodup := by
  rw [recent, List.map_filterMap]
  refine (nodup_eraseDups _).filterMap fun one other key first second => ?_
  simp only [Option.map_map, Option.mem_def, Option.map_eq_some_iff] at first second
  obtain ⟨_, _, rfl⟩ := first
  obtain ⟨_, _, rfl⟩ := second
  rfl

end Source

namespace Group

/-! ## Lookups one after the other -/

/-- A lookup from its start to its end: if its call of the source is held, the call ends as
the function says. -/
def complete (function : String → Except String Octets) (group : Group) (key : String) :
    Group × List (Notice Call Result) :=
  let started := group.step (.lookup key)
  match started.1.stage? key with
  | none => started
  | some _ =>
      let finished := started.1.step (.finish key (Source.outcome function key))
      (finished.1, started.2 ++ finished.2)

/-- Lookups one after the other. -/
def completeAll (function : String → Except String Octets) (group : Group)
    (keys : List String) : Group :=
  keys.foldl (fun group key => (group.complete function key).1) group

/-- Whether a lookup of a key is a hit. -/
def Hits (function : String → Except String Octets) (group : Group) (key : String) : Prop :=
  (group.complete function key).1.world.counters.hits = group.world.counters.hits + 1

/-- Whether nobody is in a group that has no picker. -/
structure Idle (source : Source) (group : Group) : Prop where
  sound : group.Sound
  callers : group.callers = []
  picker : group.world.picker = none
  source : group.world.source = source

/-- What a lookup returns in a group without peers, what it does to the cache, and how it is
counted. -/
inductive Served (function : String → Except String Octets) (state : GroupState) (key : String)
    (next : GroupState) : Result → Prop where
  /-- It has no key. -/
  | unnamed (isEmpty : key = "") (same : next = state) :
      Served function state key next (.error .emptyKey)
  /-- It is a hit. -/
  | hit (value : Octets) (read : state.cache.get? key = some (value, next.cache))
      (hits : next.counters.hits = state.counters.hits + 1)
      (loads : next.counters.localLoads = state.counters.localLoads) :
      Served function state key next (.ok value)
  /-- The source gives a value. -/
  | loaded (value : Octets) (missed : state.cache.get? key = none)
      (success : Source.success? function key = some value)
      (kept : next.cache = (state.cache.put key value).1)
      (hits : next.counters.hits = state.counters.hits)
      (loads : next.counters.localLoads = state.counters.localLoads + 1) :
      Served function state key next (.ok value)
  /-- The source fails. -/
  | failed (text : String) (named : key ≠ "") (missed : state.cache.get? key = none)
      (failure : function key = .error text) (kept : next.cache = state.cache)
      (hits : next.counters.hits = state.counters.hits)
      (loads : next.counters.localLoads = state.counters.localLoads) :
      Served function state key next (.error (.loader text))

/-- Whether a lookup ends with a result, is served, and leaves nobody in the group. -/
structure Completes (function : String → Except String Octets) (source : Source) (group : Group)
    (key : String) (result : Result) : Prop where
  idle : Idle source (group.complete function key).1
  ended : ∃ calls : List Call, (group.complete function key).2 =
    calls.map (.called group.nextCaller) ++ [.ended group.nextCaller key (.returned result)]
  served : Served function group.world key (group.complete function key).1.world result

variable {function : String → Except String Octets} {source : Source} {group : Group}
  {key : String} {state : GroupState}

/-- A lookup that is not answered at once has found nothing. -/
theorem get?_of_missed (missed : (state.greet key).2 = none) : state.cache.get? key = none := by
  rw [GroupState.greet] at missed
  split at missed
  · cases missed
  · dsimp only at missed
    split at missed
    · cases missed
    · assumption

/-- What a lookup that misses leaves before the source has answered. -/
def calling (state : GroupState) : GroupState :=
  { (state.count .get).count .load with sourceCalls := state.sourceCalls + 1 }

/-- A lookup that misses is served when the source has answered. -/
theorem served_of_loaded (named : key ≠ "") (missed : state.cache.get? key = none)
    {outcome : Outcome} (answered : outcome.answer? = some (function key)) :
    ∃ result, ((calling state).loaded key outcome).2 = .returned result ∧
      Served function state key ((calling state).loaded key outcome).1 result := by
  rw [GroupState.loaded, answered]
  cases gives : function key with
  | ok value => exact ⟨_, rfl, .loaded value missed (Source.success?_eq_some.mpr ⟨named, gives⟩)
      rfl rfl rfl⟩
  | error text => exact ⟨_, rfl, .failed text named missed gives rfl rfl rfl⟩

/-- Without a picker, the pass of a lookup that misses is a call of the source. -/
theorem start_calling (nobody : state.picker = none) (key : String) :
    ((state.count .get).count .load).start key =
      match state.source.load state.sourceCalls key with
      | .held => (calling state, [.load key], .blocked .loading)
      | .now outcome =>
          (((calling state).loaded key outcome).1, [.load key],
            ((calling state).loaded key outcome).2) := by
  rw [GroupState.start, GroupState.pick,
    show ((state.count .get).count .load).picker = none from nobody]
  rfl

/-- A lookup after which nobody is left is complete. -/
theorem complete_of_nobody {next : Group} {notices : List (Notice Call Result)}
    (started : group.step (.lookup key) = (next, notices)) (nobody : next.callers = []) :
    group.complete function key = (next, notices) := by
  rw [complete, started, stage?, Flight.leader?, nobody]
  rfl

/-- A lookup that waits for the source is complete when its call has ended. -/
theorem complete_of_gathers {leader ticket : Nat}
    (gathers : Flight.Gathers key () .loading leader ticket 0 (group.step (.lookup key)).1) :
    group.complete function key =
      (((group.step (.lookup key)).1.step (.finish key (Source.outcome function key))).1,
        (group.step (.lookup key)).2 ++
          ((group.step (.lookup key)).1.step (.finish key (Source.outcome function key))).2) := by
  have waits : (group.step (.lookup key)).1.stage? key = some .loading := by
    rw [stage?, gathers.leader?_eq]
    rfl
  rw [complete, waits]

namespace Idle

/-- A group that nobody is left in stays idle. -/
theorem next (idle : Idle source group) {next : Group} (sound : next.Sound)
    (nobody : next.callers = [])
    (same : next.world.nature = group.world.nature) : Idle source next where
  sound := sound
  callers := nobody
  picker := (GroupState.picker_of_nature same).trans idle.picker
  source := (GroupState.source_of_nature same).trans idle.source

/-- A lookup that is answered at once is complete. -/
theorem complete_of_answered (idle : Idle source group) {result : Result}
    (answered : (group.world.greet key).2 = some result) :
    Completes function source group key result := by
  have greeted : loads.greet group.world key () = ((group.world.greet key).1, some result) := by
    rw [← answered]
    rfl
  have started : group.step (.lookup key) = _ := Flight.step_answered idle.callers greeted
  have sound := idle.sound.step loads (.start key ())
  have same := GroupState.nature_greet group.world key
  have completed : group.complete function key = _ := complete_of_nobody started idle.callers
  refine ⟨?_, ⟨[], ?_⟩, ?_⟩ <;> rw [completed]
  · exact idle.next (started ▸ sound) idle.callers same
  · rfl
  · rcases GroupState.greet_of_answered answered with
      ⟨isEmpty, rfl, unchanged⟩ | ⟨_, value, cache, read, rfl, counted⟩
    · exact .unnamed (by simpa using isEmpty) unchanged
    · dsimp only
      rw [counted]
      exact .hit value read rfl rfl

/-- A lookup that misses is complete when the source has answered. -/
theorem complete_of_missed (idle : Idle source group) (follows : source.Follows function)
    (missed : (group.world.greet key).2 = none) :
    ∃ result, Completes function source group key result := by
  obtain ⟨isNamed, counted⟩ := GroupState.greet_of_missed missed
  have named : key ≠ "" := by simpa using isNamed
  have absent := get?_of_missed missed
  have greeted : loads.greet group.world key () =
      ((group.world.count .get).count .load, none) := by
    rw [← counted, ← missed]
    rfl
  have sound := idle.sound.step loads (.start key ())
  have starts := start_calling idle.picker key
  rw [idle.source] at starts
  rcases follows group.world.sourceCalls key with isHeld | ⟨outcome, isNow, gives⟩
  · obtain ⟨result, returns, served⟩ := served_of_loaded named absent
      (Source.answer?_outcome function key)
    have same := GroupState.nature_resume (calling group.world) key .loading
      (Source.outcome function key)
    rw [isHeld] at starts
    obtain ⟨gathers, isWorld, called⟩ := Flight.step_opened idle.sound idle.callers greeted starts
    let waiting := (group.step (.lookup key)).1
    have resumed : loads.resume waiting.world key () .loading (Source.outcome function key) =
        (((calling group.world).loaded key (Source.outcome function key)).1, [],
          .returned result) := by
      rw [show waiting.world = calling group.world from isWorld, ← returns]
      rfl
    obtain ⟨nobody, ended⟩ := gathers.step_finish resumed
    have world := gathers.world_step_finish resumed
    refine ⟨result, ?_, ⟨[.load key], ?_⟩, ?_⟩ <;> rw [complete_of_gathers gathers]
    · exact idle.next (sound.step loads _) nobody (world ▸ same)
    · exact congrArg₂ (· ++ ·) called ended
    · exact world ▸ served
  · obtain ⟨result, returns, served⟩ := served_of_loaded named absent gives
    have same := GroupState.nature_resume (calling group.world) key .loading outcome
    rw [isNow] at starts
    dsimp only at starts
    rw [returns] at starts
    have started : group.step (.lookup key) = _ :=
      Flight.step_passed idle.sound idle.callers greeted starts
    have completed : group.complete function key = _ := complete_of_nobody started idle.callers
    refine ⟨result, ?_, ⟨[.load key], ?_⟩, ?_⟩ <;> rw [completed]
    · exact idle.next (started ▸ sound) idle.callers same
    · exact served

/-- A lookup completes. -/
theorem complete (idle : Idle source group) (follows : source.Follows function) (key : String) :
    ∃ result, Completes function source group key result := by
  cases answered : (group.world.greet key).2 with
  | some result => exact ⟨result, idle.complete_of_answered answered⟩
  | none => exact idle.complete_of_missed follows answered

end Idle

/-! ## What is kept -/

/-- Whether a cache keeps the pairs of the keys that succeeded, the one looked up last in
front, as far as they keep the budget. -/
structure Keeps (function : String → Except String Octets) (budget : Nat) (keys : List String)
    (cache : LocalCache) : Prop where
  limited : cache.Limited budget
  entries : cache.entries = (Source.recent function keys).fitting budget

namespace Keeps

variable {budget : Nat} {keys : List String} {cache : LocalCache}

theorem empty (function : String → Except String Octets) (budget : Nat) :
    Keeps function budget [] { budget := budget } where
  limited := .empty budget
  entries := (Pairs.fitting_eq_self (.inr (Nat.zero_le budget))).symm

/-- A value that is kept is the one with which lookups of its key succeed. -/
theorem success?_of_mem (keeps : Keeps function budget keys cache) {value : Octets}
    (listed : (key, value) ∈ cache.entries) : Source.success? function key = some value := by
  rw [keeps.entries] at listed
  exact Source.mem_recent (Pairs.mem_of_mem_fitting listed)

/-- A key that comes to the front does so before what is too much is dropped, or after. -/
theorem fitting_concat (keeps : Keeps function budget keys cache) {value : Octets}
    (success : Source.success? function key = some value) :
    (Source.recent function (keys ++ [key])).fitting budget =
      Pairs.fitting ((key, value) :: Pairs.without cache.entries key) budget := by
  rw [Source.recent_concat, success, keeps.entries]
  refine (Pairs.fitting_front (Source.nodup_recent function keys) fun other listed => ?_).symm
  exact Option.some.inj ((Source.mem_recent listed).symm.trans success)

/-- A lookup that fails changes nothing. -/
theorem failed (keeps : Keeps function budget keys cache)
    (failure : Source.success? function key = none) :
    Keeps function budget (keys ++ [key]) cache where
  limited := keeps.limited
  entries := by rw [Source.recent_concat, failure, keeps.entries]

/-- The keys that are kept differ. -/
theorem nodup (keeps : Keeps function budget keys cache) : (cache.entries.map Prod.fst).Nodup := by
  rw [keeps.entries]
  exact (Source.nodup_recent function keys).sublist
    ((Pairs.fitting_isPrefix _ budget).sublist.map Prod.fst)

/-- A hit moves the pair of its key to the front. -/
theorem hit (keeps : Keeps function budget keys cache) {value : Octets} {next : LocalCache}
    (read : cache.get? key = some (value, next)) :
    Keeps function budget (keys ++ [key]) next where
  limited := keeps.limited.get? read
  entries := by
    obtain ⟨front, back, split, moved⟩ := keeps.limited.formed.get?_moves read
    have listed : (key, value) ∈ cache.entries := by
      rw [split]
      exact List.mem_append_right front List.mem_cons_self
    have success := keeps.success?_of_mem listed
    have others : Pairs.without cache.entries key = front ++ back := by
      rw [split]
      exact Pairs.without_split (Pairs.others_of_nodup (split ▸ keeps.nodup))
    have sameTotal : Pairs.total ((key, value) :: (front ++ back)) = Pairs.total cache.entries := by
      rw [split]
      exact Pairs.total_perm List.perm_middle.symm
    rw [keeps.fitting_concat success, others, moved, Pairs.fitting_eq_self]
    by_cases unlimited : budget = 0
    · exact .inl unlimited
    · rw [sameTotal, keeps.entries]
      exact .inr (Pairs.fitting_longest _ unlimited).2.1

/-- A value from the source comes to the front, and what is then too much is dropped. -/
theorem loaded (keeps : Keeps function budget keys cache) {value : Octets}
    (success : Source.success? function key = some value) :
    Keeps function budget (keys ++ [key]) (cache.put key value).1 where
  limited := keeps.limited.put (Source.success?_eq_some.mp success).1 value
  entries := by
    rw [keeps.limited.entries_put, keeps.fitting_concat success]
    rfl

/-- A lookup keeps it, and returns what the function says. -/
theorem served (keeps : Keeps function budget keys state.cache) {next : GroupState}
    {result : Result} (served : Served function state key next result) :
    Keeps function budget (keys ++ [key]) next.cache ∧ result = Source.answer function key := by
  cases served with
  | unnamed isEmpty same =>
      rw [same, Source.answer, if_pos isEmpty]
      exact ⟨keeps.failed (by rw [Source.success?, if_pos isEmpty]), rfl⟩
  | hit value read hits loads =>
      have success := keeps.success?_of_mem (keeps.limited.formed.entries_get? read).1
      obtain ⟨named, gives⟩ := Source.success?_eq_some.mp success
      exact ⟨keeps.hit read, (Source.answer_of_ok named gives).symm⟩
  | loaded value missed success kept hits loads =>
      obtain ⟨named, gives⟩ := Source.success?_eq_some.mp success
      rw [kept]
      exact ⟨keeps.loaded success, (Source.answer_of_ok named gives).symm⟩
  | failed text named missed failure kept hits loads =>
      rw [kept, Source.answer, if_neg named, failure]
      exact ⟨keeps.failed (by rw [Source.success?, if_neg named, failure]; rfl), rfl⟩

/-- A lookup is a hit exactly if its key is kept, and is counted as a hit or as a call of the
source exactly if it succeeds. -/
theorem counted (keeps : Keeps function budget keys state.cache) {next : GroupState}
    {result : Result} (served : Served function state key next result) :
    next.counters.hits = state.counters.hits + (if state.cache.contains key then 1 else 0) ∧
      next.counters.hits + next.counters.localLoads =
        state.counters.hits + state.counters.localLoads +
          (if (Source.success? function key).isSome then 1 else 0) := by
  have formed := keeps.limited.formed
  have absent (missed : state.cache.get? key = none) : state.cache.contains key = false := by
    by_contra resident
    obtain ⟨_, value, next, read, _⟩ := formed.read (by simpa using resident)
    rw [missed] at read
    cases read
  cases served with
  | unnamed isEmpty same =>
      have failure : Source.success? function key = none := by rw [Source.success?, if_pos isEmpty]
      have away : state.cache.contains key = false := by
        by_contra resident
        obtain ⟨named, _⟩ := formed.read (by simpa using resident)
        exact named isEmpty
      rw [same, away, failure]
      exact ⟨rfl, rfl⟩
  | hit value read hits loads =>
      have resident := formed.contains_of_get? read
      have success := keeps.success?_of_mem (formed.entries_get? read).1
      rw [resident, success, hits, loads, if_pos rfl, Option.isSome_some, if_pos rfl]
      omega
  | loaded value missed success kept hits loads =>
      rw [absent missed, success, hits, loads, Option.isSome_some, if_pos rfl]
      exact ⟨rfl, rfl⟩
  | failed text named missed failure kept hits loads =>
      have none : Source.success? function key = none := by
        rw [Source.success?, if_neg named, failure]
        rfl
      rw [absent missed, none, hits, loads]
      exact ⟨rfl, rfl⟩

end Keeps

/-! ## Whole sequences -/

section Sequences

variable {keys : List String}

theorem completeAll_concat (function : String → Except String Octets) (group : Group)
    (keys : List String) (key : String) :
    group.completeAll function (keys ++ [key]) =
      ((group.completeAll function keys).complete function key).1 := by
  rw [completeAll, completeAll, List.foldl_concat]

/-- After any sequence of lookups, nobody is in the group, and it keeps what fits of the keys
that succeeded. -/
theorem keeps_completeAll (name : String) (budget : Nat) (follows : source.Follows function)
    (keys : List String) :
    let after := (create name budget source).completeAll function keys
    Idle source after ∧ Keeps function budget keys after.world.cache := by
  induction keys using List.reverseRecOn with
  | nil => exact ⟨⟨.empty _, rfl, rfl, rfl⟩, .empty function budget⟩
  | append_singleton front key inductionHypothesis =>
      obtain ⟨idle, keeps⟩ := inductionHypothesis
      obtain ⟨_, completes⟩ := idle.complete follows key
      dsimp only
      rw [completeAll_concat]
      exact ⟨completes.idle, (keeps.served completes.served).1⟩

/-- The next lookup is counted by what is kept before it. -/
theorem counted_completeAll (name : String) (budget : Nat) (follows : source.Follows function)
    (keys : List String) (key : String) :
    let before := (create name budget source).completeAll function keys
    let after := (before.complete function key).1.world.counters
    after.hits = before.world.counters.hits +
        (if before.world.cache.contains key then 1 else 0) ∧
      after.hits + after.localLoads =
        before.world.counters.hits + before.world.counters.localLoads +
          (if (Source.success? function key).isSome then 1 else 0) := by
  obtain ⟨idle, keeps⟩ := keeps_completeAll name budget follows keys
  obtain ⟨_, completes⟩ := idle.complete follows key
  exact keeps.counted completes.served

/-- Every lookup that succeeds is a hit or a call of the source. -/
theorem hits_add_localLoads (name : String) (budget : Nat) (follows : source.Follows function)
    (keys : List String) :
    let counters := ((create name budget source).completeAll function keys).world.counters
    counters.hits + counters.localLoads =
      keys.countP fun key => (Source.success? function key).isSome := by
  induction keys using List.reverseRecOn with
  | nil => rfl
  | append_singleton front key inductionHypothesis =>
      have counted := (counted_completeAll name budget follows front key).2
      dsimp only at counted inductionHypothesis ⊢
      rw [completeAll_concat, counted, inductionHypothesis, List.countP_append,
        List.countP_singleton]

/-- A lookup is a hit exactly if its key is among those that fit. -/
theorem hits_iff (name : String) (budget : Nat) (follows : source.Follows function)
    (keys : List String) (key : String) :
    ((create name budget source).completeAll function keys).Hits function key ↔
      ∃ value, (key, value) ∈ (Source.recent function keys).fitting budget := by
  obtain ⟨_, keeps⟩ := keeps_completeAll name budget follows keys
  have counted := (counted_completeAll name budget follows keys key).1
  rw [Hits, counted, ← keeps.entries, ← keeps.limited.formed.contains_iff]
  split <;> simp_all

/-- A larger budget makes no hit a miss. -/
theorem Hits.larger {name : String} (follows : source.Follows function) {small large : Nat}
    (larger : (small ≠ 0 ∧ small ≤ large) ∨ large = 0)
    (hits : ((create name small source).completeAll function keys).Hits function key) :
    ((create name large source).completeAll function keys).Hits function key := by
  rw [hits_iff name _ follows] at hits ⊢
  obtain ⟨value, listed⟩ := hits
  exact ⟨value, (Pairs.fitting_prefix_fitting _ larger).subset listed⟩

/-- A larger budget does not make hits fewer. -/
theorem hits_le_hits (name : String) (follows : source.Follows function) {small large : Nat}
    (larger : (small ≠ 0 ∧ small ≤ large) ∨ large = 0) (keys : List String) :
    ((create name small source).completeAll function keys).world.counters.hits ≤
      ((create name large source).completeAll function keys).world.counters.hits := by
  induction keys using List.reverseRecOn with
  | nil => exact Nat.le_refl _
  | append_singleton front key inductionHypothesis =>
      have smallCounted := (counted_completeAll name small follows front key).1
      have largeCounted := (counted_completeAll name large follows front key).1
      have both : ((create name small source).completeAll function front).Hits function key →
          ((create name large source).completeAll function front).Hits function key :=
        Hits.larger follows larger
      rw [Hits, Hits] at both
      rw [completeAll_concat, completeAll_concat]
      split at smallCounted <;> split at largeCounted <;> omega

/-- Lookups come one after the other to a group without peers whose source follows a function.
They end with what the function says, and what the group keeps is the longest prefix within
the budget of the keys that succeeded, the one looked up last in front; a budget of zero is no
limit. So with a larger budget, where zero is the largest one, every lookup that was a hit is a
hit, hits do not become fewer, and the source is not called more often with success. -/
theorem larger_budget_hits_more (name : String) {function : String → Except String Octets}
    {source : Source} (follows : source.Follows function) (keys : List String) :
    let after budget := (create name budget source).completeAll function keys
    let kept budget := (after budget).world.cache.entries
    let recent := Source.recent function keys
    (∀ budget key, ∃ calls : List Call, ((after budget).complete function key).2 =
      calls.map (.called (after budget).nextCaller) ++
        [.ended (after budget).nextCaller key (.returned (Source.answer function key))]) ∧
      kept 0 = recent ∧
      (∀ budget, budget ≠ 0 → kept budget <+: recent ∧ Pairs.total (kept budget) ≤ budget ∧
        ∀ other, other <+: recent → Pairs.total other ≤ budget →
          other.length ≤ (kept budget).length) ∧
      ∀ small large, (small ≠ 0 ∧ small ≤ large) ∨ large = 0 →
        (∀ key, (after small).Hits function key → (after large).Hits function key) ∧
        (after small).world.counters.hits ≤ (after large).world.counters.hits ∧
        (after large).world.counters.localLoads ≤ (after small).world.counters.localLoads := by
  intro after kept recent
  have isKept (budget : Nat) : kept budget = recent.fitting budget :=
    (keeps_completeAll name budget follows keys).2.entries
  refine ⟨fun budget key => ?_, ?_, fun budget limited => ?_,
    fun small large larger => ⟨fun key => ?_, ?_, ?_⟩⟩
  · obtain ⟨idle, keeps⟩ := keeps_completeAll name budget follows keys
    obtain ⟨result, completes⟩ := idle.complete follows key
    obtain rfl := (keeps.served completes.served).2
    exact completes.ended
  · rw [isKept, Pairs.fitting_eq_self (.inl rfl)]
  · rw [isKept]
    exact Pairs.fitting_longest recent limited
  · exact Hits.larger follows larger
  · exact hits_le_hits name follows larger keys
  · have more : (after small).world.counters.hits ≤ (after large).world.counters.hits :=
      hits_le_hits name follows larger keys
    have sameSum : (after small).world.counters.hits + (after small).world.counters.localLoads =
        (after large).world.counters.hits + (after large).world.counters.localLoads :=
      (hits_add_localLoads name small follows keys).trans
        (hits_add_localLoads name large follows keys).symm
    omega

/-- With two octets of budget, one of two keys is kept; with four, both are. -/
theorem four_octets_hit_more_than_two :
    let function := fun key => if key = "c" then .error "unknown" else .ok [1]
    let after budget := (create "letters" budget (.ofFunction function)).completeAll function
      ["a", "c", "b"]
    (Source.ofFunction function).Follows function ∧
      (after 0).world.cache.entries = [("b", [1]), ("a", [1])] ∧
      ∀ key, (after 2).Hits function key → (after 4).Hits function key := by
  intro function
  have follows : (Source.ofFunction function).Follows function :=
    Source.follows_ofFunction function
  have isRecent : Source.recent function ["a", "c", "b"] = [("b", [1]), ("a", [1])] := by
    simp [Source.recent, Source.success?, function, List.eraseDups_cons, Except.toOption]
  have all := larger_budget_hits_more "letters" follows ["a", "c", "b"]
  dsimp only at all ⊢
  exact ⟨follows, all.2.1.trans isRecent, (all.2.2.2 2 4 (by decide)).1⟩

/-- A budget of zero is less than one, but a lookup is a hit with the former and not with the
latter. -/
theorem zero_budget_hits_more :
    let function := fun _ => .ok [1]
    let after budget := (create "letters" budget (.ofFunction function)).completeAll function ["a"]
    0 ≤ 1 ∧ (after 0).Hits function "a" ∧ ¬ (after 1).Hits function "a" := by
  intro function after
  have follows := Source.follows_ofFunction function
  have isRecent : Source.recent function ["a"] = [("a", [1])] := rfl
  have isKept : Pairs.fitting [("a", ([1] : Octets))] 1 = [] := by decide
  refine ⟨by decide, (hits_iff "letters" 0 follows ["a"] "a").mpr ⟨[1], ?_⟩, fun hits => ?_⟩
  · rw [isRecent, Pairs.fitting_eq_self (.inl rfl)]
    exact List.mem_singleton_self _
  · obtain ⟨value, listed⟩ := (hits_iff "letters" 1 follows ["a"] "a").mp hits
    rw [isRecent, isKept] at listed
    cases listed

end Sequences

end Group

end RingCache
