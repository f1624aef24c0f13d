import RingCache.Proofs.Group.Provenance

/-!
# What changes what a group keeps

What a group keeps is read off the pairs of its cache, newest first: which keys are
there, how many, and what they cost (`LocalCache.Limited`). The pairs change in two
ways only. A hit moves the pair of its key to the front (`hit_moves_to_front`), and
the end of a call of the source that gives a value is one write of this value
(`Receipt`). Whatever else happens leaves the cache as it is.
-/

namespace RingCache

open Recency

namespace LocalCache

/-- Whether a cache is well formed and has a store of its own budget, or none. -/
structure Limited (budget : Nat) (cache : LocalCache) : Prop where
  formed : cache.Formed
  limit : cache.budget = budget
  stored : ∀ store, cache.store = some store → store.budget = budget

variable {budget : Nat} {cache : LocalCache} {key : String} {value : Octets}

/-- A well-formed cache counts the pairs that it lists. -/
theorem Formed.size_eq (formed : cache.Formed) : cache.size = cache.entries.length := by
  rw [size, entries]
  cases kept : cache.store with
  | none => rfl
  | some store =>
      obtain ⟨⟨order, arranged⟩, _⟩ := formed store kept
      exact arranged.length_entries.symm

/-- A well-formed cache accounts for the cost of the pairs that it lists. -/
theorem Formed.used_eq (formed : cache.Formed) : cache.used = Pairs.total cache.entries := by
  rw [used, entries]
  cases kept : cache.store with
  | none => rfl
  | some store =>
      obtain ⟨⟨order, arranged⟩, _⟩ := formed store kept
      exact arranged.used_eq

/-- A key is kept exactly if a pair of it is listed. -/
theorem Formed.contains_iff (formed : cache.Formed) :
    cache.contains key ↔ ∃ value, (key, value) ∈ cache.entries := by
  constructor
  · intro resident
    obtain ⟨_, value, _, _, listed⟩ := formed.read resident
    exact ⟨value, listed⟩
  · rintro ⟨value, listed⟩
    rw [entries] at listed
    rw [contains]
    cases kept : cache.store with
    | none =>
        rw [kept] at listed
        cases listed
    | some store =>
        rw [kept] at listed
        obtain ⟨⟨order, arranged⟩, _⟩ := formed store kept
        rw [Option.any_some, arranged.contains_eq]
        exact List.any_eq_true.mpr ⟨(key, value), listed, beq_self_eq_true key⟩

/-- A key that is read is kept. -/
theorem Formed.contains_of_get? (formed : cache.Formed) {next : LocalCache}
    (read : cache.get? key = some (value, next)) : cache.contains key :=
  formed.contains_iff.mpr ⟨value, (formed.entries_get? read).1⟩

/-- Reading moves the one pair of a key to the front, and leaves the others in their
order. -/
theorem Formed.get?_moves (formed : cache.Formed) {next : LocalCache}
    (read : cache.get? key = some (value, next)) :
    ∃ front back, cache.entries = front ++ (key, value) :: back ∧
      next.entries = (key, value) :: (front ++ back) := by
  obtain ⟨store, after, kept, rfl, _, listed, isEntries⟩ := formed.of_get? read
  obtain ⟨⟨order, arranged⟩, _⟩ := formed store kept
  obtain ⟨place, _, indexed⟩ := arranged.index_of_mem listed
  obtain ⟨front, back, slot, _, _, _, split, others⟩ := arranged.split indexed
  have isOwn : (key, value) = (key, slot.value) := by
    rw [split] at listed
    rcases List.mem_append.mp listed with before | rest
    · exact absurd rfl (others _ (List.mem_append_left _ before))
    · rcases List.mem_cons.mp rest with own | behind
      · exact own
      · exact absurd rfl (others _ (List.mem_append_right _ behind))
  refine ⟨store.pairsAt front, store.pairsAt back, ?_, ?_⟩
  · rw [entries, kept, isOwn]
    exact split
  · have without : Pairs.without store.entries key = store.pairsAt front ++ store.pairsAt back := by
      rw [split]
      exact Pairs.without_split others
    rw [← without]
    exact isEntries

namespace Limited

/-- A cache without a store is limited by its budget. -/
theorem empty (budget : Nat) : Limited budget { budget := budget } where
  formed _ kept := nomatch kept
  limit := rfl
  stored _ kept := nomatch kept

/-- Reading keeps the limit. -/
theorem get? (limited : Limited budget cache) {next : LocalCache}
    (read : cache.get? key = some (value, next)) : Limited budget next := by
  obtain ⟨store, after, kept, rfl, _⟩ := limited.formed.of_get? read
  refine ⟨limited.formed.get? read, limited.limit, fun other isAfter => ?_⟩
  obtain rfl : after = other := Option.some.inj isAfter
  cases readStore : store.get? key with
  | none => simp [LocalCache.get?, kept, readStore] at read
  | some found =>
      simp only [LocalCache.get?, kept, Option.bind_eq_bind, Option.bind_some, readStore] at read
      have isStore : found.2 = after :=
        Option.some.inj (LocalCache.mk.inj (Prod.mk.inj (Option.some.inj read)).2).2
      have keeps := ((limited.formed store kept).1.get?_eq key).2 found.1 found.2 readStore
      rw [← isStore, keeps.2, limited.stored store kept]

/-- The store that is written to has the budget of the cache. -/
theorem started (limited : Limited budget cache) :
    (cache.store.getD (Store.empty cache.budget)).budget = budget := by
  cases kept : cache.store with
  | none => exact limited.limit
  | some store => exact limited.stored store kept

/-- Writing keeps the limit. -/
theorem put (limited : Limited budget cache) (named : key ≠ "") (value : Octets) :
    Limited budget (cache.put key value).1 where
  formed := limited.formed.put named value
  limit := limited.limit
  stored store kept := by
    obtain rfl := Option.some.inj kept
    exact (limited.formed.started.1.put_eq key value).2.2.trans limited.started

/-- Writing is writing to the pairs. -/
theorem put_eq (limited : Limited budget cache) (key : String) (value : Octets) :
    Pairs.put cache.entries budget key value =
      ((cache.put key value).1.entries, (cache.put key value).2) := by
  obtain ⟨wellFormed, same⟩ := limited.formed.started
  have written := (wellFormed.put_eq key value).1
  rw [limited.started, same] at written
  exact written

/-- Writing puts the pair in front and keeps the longest prefix within the budget. -/
theorem entries_put (limited : Limited budget cache) (key : String) (value : Octets) :
    (cache.put key value).1.entries = (Pairs.put cache.entries budget key value).1 := by
  rw [limited.put_eq]

/-- Writing forgets the pairs that do not fit. -/
theorem forgotten_put (limited : Limited budget cache) (key : String) (value : Octets) :
    (cache.put key value).2 = (Pairs.put cache.entries budget key value).2 := by
  rw [limited.put_eq]

end Limited

end LocalCache

/-! ## Groups -/

namespace GroupState

variable {state : GroupState} {budget : Nat} {key : String}

/-- A lookup that comes keeps the limit. -/
theorem limited_greet (limited : state.cache.Limited budget) (key : String) :
    (state.greet key).1.cache.Limited budget := by
  cases answered : (state.greet key).2 with
  | none =>
      rw [(greet_of_missed answered).2]
      exact limited
  | some result =>
      rcases greet_of_answered answered with ⟨_, _, same⟩ | ⟨_, value, cache, read, _, counted⟩
      · rw [same]
        exact limited
      · rw [counted]
        exact limited.get? read

/-- A pass of a key that is not empty keeps the limit. -/
theorem limited_pass (budget : Nat) (named : key ≠ "") :
    PassInvariant (·.cache.Limited budget) key where
  counts _ _ limited := limited
  keeps _ value limited := limited.put named value
  calls _ limited := limited

/-- The cache of a group keeps its budget and its limit at all times. -/
theorem limited_invariant (budget : Nat) :
    WorldInvariant Group.loads equip (fun state => state.cache.Limited budget) (· ≠ "") where
  admitted := invariant.admitted
  acts _ _ limited := limited
  greets _ key _ limited := limited_greet limited key
  starts _ _ _ limited named :=
    (limited_pass budget named).start (by rw [pick_frame]; exact limited)
  resumes _ _ _ stage outcome limited named :=
    (limited_pass budget named).resume limited stage outcome
  shares _ limited := limited

/-- A lookup of a key that is kept is a hit. -/
theorem greet_reads (formed : state.cache.Formed) (resident : state.cache.contains key) :
    ∃ value, state.cache.get? key = some (value, (state.greet key).1.cache) ∧
      (state.greet key).2 = some (.ok value) := by
  obtain ⟨named, value, next, read, _⟩ := formed.read resident
  have present : (state.count .get).cache.get? key = some (value, next) := read
  have greeted : state.greet key =
      ({ state.count .get with cache := next }.count .hit, some (.ok value)) := by
    rw [greet, if_neg (by simpa using named)]
    dsimp only
    rw [present]
  rw [greeted]
  exact ⟨value, read, rfl⟩

end GroupState

namespace Group

/-- Offering a picker leaves the cache as it is, whether the picker is taken or
refused. -/
theorem cache_register (group : Group) (picker : Picker) :
    (group.step (.register picker)).1.world.cache = group.world.cache := by
  rw [step, register]
  cases group.world.picker <;> rfl

end Group

namespace GroupRun

variable {run : GroupRun} {index : Nat} {key : String}

/-- A lookup of a key that is kept ends at once with the value kept, and moves the
pair of the key to the front. -/
theorem hit_moves_to_front (formed : (run.state index).world.cache.Formed)
    (started : run.happening index = .event (.start key ()))
    (resident : (run.state index).world.cache.contains key) :
    ∃ front value back,
      (run.state index).world.cache.entries = front ++ (key, value) :: back ∧
      run.notices index = [.ended (run.state index).nextCaller key (.returned (.ok value))] ∧
      (run.state (index + 1)).world.cache.entries = (key, value) :: (front ++ back) := by
  obtain ⟨value, read, greeted⟩ := GroupState.greet_reads formed resident
  have answers : run.Answers index (run.state index).nextCaller key (.ok value) :=
    ⟨rfl, (), started, greeted⟩
  have reached : (run.state (index + 1)).world = ((run.state index).world.greet key).1 := by
    have asked := greeted
    rw [show (run.state index).world.greet key = Group.loads.greet (run.state index).world key ()
      from rfl] at asked ⊢
    rw [Run.state, started, Flight.happen, Flight.apply, Flight.ask, asked]
  obtain ⟨front, back, split, moved⟩ := formed.get?_moves read
  exact ⟨front, value, back, split, answers.next.1, by rw [reached, moved]⟩

/-- In every run of a group, what the group keeps changes in two ways only. A lookup
of a key that is kept moves its pair to the front, and nothing else. A call of the
source that ends with a value is one write of this value under its key. Whatever else
happens leaves the cache as it is: lookups that a peer answers, that fail or have no
key, that join a pass or wait for one; fetches and calls of the source that fail or
crash; cancellations of those who make a pass or wait; and changes of the picker. A
picker that is offered, taken or refused, changes nothing either; and the questions
whether a key is kept, how much is kept, and how the group describes itself are
functions of the group. The pairs say which keys are kept, how many they are and what
they cost. -/
theorem cache_changes_by_hits_and_loads (name : String) (budget : Nat) (source : Source)
    (happening : Nat → Happening (Option Picker) Unit) :
    let run : GroupRun := .create name budget source happening
    ∀ index,
      let before := (run.state index).world.cache
      let after := (run.state (index + 1)).world.cache
      (∀ key, run.happening index = .event (.start key ()) → before.contains key →
        ∃ front value back, before.entries = front ++ (key, value) :: back ∧
          run.notices index = [.ended (run.state index).nextCaller key (.returned (.ok value))] ∧
          after.entries = (key, value) :: (front ++ back)) ∧
      (∀ id key outcome value, run.LoadEnds index id key outcome →
        outcome.answer? = some (.ok value) →
        after = (before.put key value).1 ∧
          after.entries = (Pairs.put before.entries budget key value).1) ∧
      ((∀ key, run.happening index = .event (.start key ()) → ¬ before.contains key) →
        (∀ id key outcome value, run.LoadEnds index id key outcome →
          outcome.answer? ≠ some (.ok value)) →
        after = before) ∧
      (∀ picker, (Group.step (run.state index) (.register picker)).1.world.cache = before) ∧
      (∀ key, Group.isCached (run.state index) key ↔ ∃ value, (key, value) ∈ before.entries) ∧
      (Group.snapshot (run.state index)).entries = before.entries.length ∧
      (Group.snapshot (run.state index)).bytes = Pairs.total before.entries := by
  intro run index before after
  have limited : before.Limited budget :=
    ((GroupState.limited_invariant budget).always run (.empty budget) index).1
  refine ⟨fun key started resident => hit_moves_to_front limited.formed started resident, ?_, ?_,
    Group.cache_register _, fun key => limited.formed.contains_iff, limited.formed.size_eq,
    limited.formed.used_eq⟩
  · intro id key outcome value ends succeeds
    have written : after = (before.put key value).1 := by
      cases Group.receipt_of_effect (run.sound index) (run.effect index) with
      | rests silent kept => exact absurd ends (silent id key outcome)
      | reads silent other octets isStart read => exact absurd ends (silent id key outcome)
      | receives other otherKey loaded? isEnd keeps =>
          obtain ⟨rfl, rfl, rfl⟩ := (isEnd id key outcome).mp ends
          rw [LocalCache.receive, Option.bind_some, succeeds] at keeps
          exact keeps
    exact ⟨written, by rw [written, limited.entries_put]⟩
  · intro missed silentSource
    cases Group.receipt_of_effect (run.sound index) (run.effect index) with
    | rests silent kept => exact kept
    | reads silent key value isStart read =>
        exact absurd (limited.formed.contains_of_get? read) (missed key isStart)
    | receives id key loaded? isEnd keeps =>
        rcases LocalCache.receive_cases before key loaded? with
          ⟨outcome, value, isOutcome, succeeds, _⟩ | ⟨_, rests⟩
        · have ends : run.LoadEnds index id key outcome :=
            (isEnd id key outcome).mpr ⟨rfl, rfl, isOutcome⟩
          exact absurd succeeds (silentSource id key outcome value ends)
        · exact keeps.trans rests

end GroupRun

end RingCache
