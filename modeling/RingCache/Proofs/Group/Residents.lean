import RingCache.Proofs.Flight.Worlds
import RingCache.Proofs.Group.Frames
import RingCache.Proofs.Group.Runs
import RingCache.Proofs.Recency.Arrangement

/-!
# What a group keeps

The store of a group is well formed at all times and has no pair of the empty
key (`GroupState.invariant`). So a key that the group keeps is also found, and a
lookup of it is answered at once.
-/

namespace RingCache

open Recency

/-! ## Caches -/

namespace LocalCache

/-- Whether a cache has a well-formed store without a pair of the empty key, or
no store. -/
def Formed (cache : LocalCache) : Prop :=
  ∀ store, cache.store = some store →
    store.WellFormed ∧ ∀ pair ∈ store.entries, pair.1 ≠ ""

variable {cache : LocalCache} {key : String}

/-- No pair that a cache keeps is of the empty key. -/
theorem Formed.named (formed : cache.Formed) {pair : String × Octets}
    (mem : pair ∈ cache.entries) : pair.1 ≠ "" := by
  rw [entries] at mem
  cases kept : cache.store with
  | none =>
      rw [kept] at mem
      cases mem
  | some store =>
      rw [kept] at mem
      exact (formed store kept).2 pair mem

/-- What is read was kept, and its pair comes to the front of the store. -/
theorem Formed.of_get? (formed : cache.Formed) {value : Octets} {next : LocalCache}
    (read : cache.get? key = some (value, next)) :
    ∃ store after, cache.store = some store ∧ next = { cache with store := some after } ∧
      after.WellFormed ∧ (key, value) ∈ store.entries ∧
      after.entries = (key, value) :: Pairs.without store.entries key := by
  rw [LocalCache.get?] at read
  cases kept : cache.store with
  | none =>
      rw [kept] at read
      cases read
  | some store =>
      obtain ⟨getEq, keeps⟩ := (formed store kept).1.get?_eq key
      rw [kept] at read
      cases found : store.get? key with
      | none => simp [found] at read
      | some result =>
          obtain ⟨rfl, rfl⟩ : result.1 = value ∧ { cache with store := some result.2 } = next := by
            simpa [found] using read
          rw [found, Option.map_some, Pairs.get?] at getEq
          obtain ⟨own, lookedUp, moved⟩ := Option.map_eq_some_iff.mp getEq
          obtain ⟨rfl, isEntries⟩ := Prod.mk.inj moved
          refine ⟨store, result.2, rfl, rfl, (keeps result.1 result.2 found).1, ?_,
            isEntries.symm⟩
          obtain ⟨front, back, split, _⟩ := List.lookup_eq_some_iff.mp lookedUp
          rw [split]
          exact List.mem_append_right _ List.mem_cons_self

/-- Reading keeps a cache well formed. -/
theorem Formed.get? (formed : cache.Formed) {value : Octets} {next : LocalCache}
    (read : cache.get? key = some (value, next)) : next.Formed := by
  obtain ⟨store, after, kept, rfl, wellFormed, listed, isEntries⟩ := formed.of_get? read
  rintro other isAfter
  obtain rfl : after = other := Option.some.inj isAfter
  refine ⟨wellFormed, ?_⟩
  rw [isEntries]
  intro pair mem
  rcases List.mem_cons.mp mem with rfl | other
  · exact (formed store kept).2 (key, value) listed
  · exact (formed store kept).2 pair (List.mem_filter.mp other).1

/-- Reading finds a pair that is kept, and keeps no others. -/
theorem Formed.entries_get? (formed : cache.Formed) {value : Octets} {next : LocalCache}
    (read : cache.get? key = some (value, next)) :
    (key, value) ∈ cache.entries ∧ ∀ pair ∈ next.entries, pair ∈ cache.entries := by
  obtain ⟨store, after, kept, rfl, _, listed, isEntries⟩ := formed.of_get? read
  have same : cache.entries = store.entries := by rw [entries, kept]; rfl
  rw [same]
  refine ⟨listed, fun pair mem => ?_⟩
  have reordered : pair ∈ (key, value) :: Pairs.without store.entries key := isEntries ▸ mem
  rcases List.mem_cons.mp reordered with rfl | other
  · exact listed
  · exact (List.mem_filter.mp other).1

/-- What a store keeps after a write is the new pair, or was there before with another
key. -/
theorem mem_entries_put {store : Store Octets} (wellFormed : store.WellFormed) (key : String)
    (value : Octets) {pair : String × Octets} (mem : pair ∈ (store.put key value).1.entries) :
    pair = (key, value) ∨ (pair ∈ store.entries ∧ pair.1 ≠ key) := by
  have written : pair ∈ (Pairs.put store.entries store.budget key value).1 := by
    rw [(wellFormed.put_eq key value).1]
    exact mem
  rcases List.mem_cons.mp (Pairs.mem_of_mem_fitting written) with rfl | other
  · exact .inl rfl
  · obtain ⟨before, differs⟩ := List.mem_filter.mp other
    exact .inr ⟨before, by simpa using differs⟩

/-- A cache without a store starts with an empty one. -/
theorem Formed.started (formed : cache.Formed) :
    (cache.store.getD (Store.empty cache.budget)).WellFormed ∧
      (cache.store.getD (Store.empty cache.budget)).entries = cache.entries := by
  rw [entries]
  cases kept : cache.store with
  | none => exact ⟨⟨[], Store.arranged_empty cache.budget⟩, rfl⟩
  | some store => exact ⟨(formed store kept).1, rfl⟩

/-- What a cache keeps after a write is the new pair, or was there before with another
key. -/
theorem Formed.entries_put (formed : cache.Formed) (key : String) (value : Octets)
    {pair : String × Octets} (mem : pair ∈ (cache.put key value).1.entries) :
    pair = (key, value) ∨ (pair ∈ cache.entries ∧ pair.1 ≠ key) := by
  obtain ⟨wellFormed, same⟩ := formed.started
  rw [← same]
  exact mem_entries_put wellFormed key value mem

/-- Writing to a key that is not empty keeps a cache well formed. -/
theorem Formed.put (formed : cache.Formed) (named : key ≠ "") (value : Octets) :
    (cache.put key value).1.Formed := by
  intro store isStore
  obtain rfl := Option.some.inj isStore
  refine ⟨(formed.started.1.put_eq key value).2.1, fun pair mem => ?_⟩
  rcases formed.entries_put key value mem with rfl | ⟨before, _⟩
  · exact named
  · exact formed.named before

/-- A key that a cache keeps is not empty, and it is found with its value. -/
theorem Formed.read (formed : cache.Formed) (resident : cache.contains key) :
    key ≠ "" ∧ ∃ value next, cache.get? key = some (value, next) ∧
      (key, value) ∈ cache.entries := by
  rw [contains] at resident
  cases kept : cache.store with
  | none =>
      rw [kept] at resident
      cases resident
  | some store =>
      rw [kept] at resident
      obtain ⟨⟨order, arranged⟩, named⟩ := formed store kept
      have listed : Pairs.contains store.entries key := arranged.contains_eq key ▸ resident
      obtain ⟨pair, mem, isKey⟩ := List.any_eq_true.mp listed
      obtain rfl : pair.1 = key := by simpa using isKey
      refine ⟨named pair mem, ?_⟩
      have found : (store.entries.lookup pair.1).isSome := by
        rw [Option.isSome_iff_ne_none]
        intro missing
        have differs := List.lookup_eq_none_iff.mp missing pair mem
        simp at differs
      obtain ⟨value, lookedUp⟩ := Option.isSome_iff_exists.mp found
      have getEq := (Store.WellFormed.get?_eq ⟨order, arranged⟩ pair.1).1
      rw [Pairs.get?, lookedUp, Option.map_some] at getEq
      obtain ⟨result, read, same⟩ := Option.map_eq_some_iff.mp getEq.symm
      have isValue : result.1 = value := congrArg Prod.fst same
      refine ⟨value, { cache with store := some result.2 }, ?_, ?_⟩
      · simp [LocalCache.get?, kept, read, isValue]
      · obtain ⟨front, back, split, _⟩ := List.lookup_eq_some_iff.mp lookedUp
        rw [entries, kept, Option.elim_some, split]
        exact List.mem_append_right _ List.mem_cons_self

end LocalCache

/-! ## Groups -/

namespace GroupState

variable {state : GroupState} {key : String}

/-- A lookup of a key that is kept is answered at once with its value. -/
theorem greet_of_resident (formed : state.cache.Formed) (resident : state.cache.contains key) :
    ∃ value, (key, value) ∈ state.cache.entries ∧
      (state.greet key).2 = some (.ok value) := by
  obtain ⟨named, value, next, read, listed⟩ := formed.read resident
  refine ⟨value, listed, ?_⟩
  have present : (state.count .get).cache.get? key = some (value, next) := read
  rw [greet, if_neg (by simpa using named)]
  dsimp only
  rw [present]

/-- A lookup that comes keeps the cache well formed. -/
theorem formed_greet (formed : state.cache.Formed) (key : String) :
    (state.greet key).1.cache.Formed := by
  cases answered : (state.greet key).2 with
  | none =>
      rw [(greet_of_missed answered).2]
      exact formed
  | some result =>
      rcases greet_of_answered answered with ⟨_, _, same⟩ | ⟨_, value, cache, read, _, counted⟩
      · rw [same]
        exact formed
      · rw [counted]
        exact formed.get? read

/-- A pass of a key that is not empty keeps the cache well formed. -/
theorem formed_pass (named : key ≠ "") : PassInvariant (·.cache.Formed) key where
  counts _ _ formed := formed
  keeps _ value formed := formed.put named value
  calls _ formed := formed

/-- The cache of a group is well formed at all times, and every lookup that is not
answered at once has a key. -/
theorem invariant :
    WorldInvariant Group.loads equip (fun state => state.cache.Formed) (· ≠ "") where
  admitted := by
    rintro state key plan missed rfl
    cases missed
  acts := fun _ _ formed => formed
  greets := fun _ key _ formed => formed_greet formed key
  starts := fun _ _ _ formed named => (formed_pass named).start (by rw [pick_frame]; exact formed)
  resumes := fun _ _ _ stage outcome formed named => (formed_pass named).resume formed stage outcome
  shares := fun _ formed => formed

end GroupState

/-- At all times of a run that starts without values, the cache is well formed. -/
theorem GroupRun.formed (run : GroupRun) (empty : run.world.cache.store = none) (index : Nat) :
    (run.state index).world.cache.Formed := by
  have initially : run.world.cache.Formed := by
    intro store kept
    rw [empty] at kept
    cases kept
  exact (GroupState.invariant.always run initially index).1

end RingCache
