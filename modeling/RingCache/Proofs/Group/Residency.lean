import Mathlib.Algebra.Order.Group.Multiset
import Mathlib.Tactic.Abel
import RingCache.Proofs.Flight.Takeovers
import RingCache.Proofs.Group.Writes
import RingCache.Proofs.Recency.Occurrences

/-!
# Where the values from the source are

Every value that the source has given to a group is in one place: the group keeps it, has forgotten
it to keep its budget, or has written over it with a later value of the same key (`Placed`). So the
counters of a group say how much of what was loaded is there.

Values are written over for one reason only. A lookup that waits for a load is told that it gave
nothing when the load is abandoned, and goes on later; when another load of the key has given a
value before that, the lookup is late (`Late`), and loads the key although it is kept. As long as
nobody is late, a key that is kept is not loaded.
-/

namespace RingCache

open Recency

/-! ## Caches -/

namespace LocalCache

variable {cache : LocalCache}

/-- A key occurs once among the pairs if it is kept, and else not at all. -/
theorem Formed.occurs_eq (formed : cache.Formed) (key : String) :
    Pairs.occurs cache.entries key = (cache.contains key).toNat := by
  rw [entries, contains]
  cases kept : cache.store with
  | none => rfl
  | some store =>
      obtain ⟨⟨order, arranged⟩, _⟩ := formed store kept
      exact arranged.occurs_eq key

/-- The keys that are kept differ. -/
theorem Formed.keys_nodup (formed : cache.Formed) : (cache.entries.map Prod.fst).Nodup := by
  rw [entries]
  cases kept : cache.store with
  | none => exact List.nodup_nil
  | some store =>
      obtain ⟨⟨order, arranged⟩, _⟩ := formed store kept
      exact arranged.keys_nodup

end LocalCache

namespace GroupRun

variable {run : GroupRun} {budget index later id ticket : Nat} {key : String} {octets : Octets}

/-! ## Pairs that come and go -/

/-- The pairs that are forgotten in a happening. -/
def forgets (run : GroupRun) (index : Nat) : List (String × Octets) :=
  (run.written? index).elim [] fun pair => ((run.state index).world.cache.put pair.1 pair.2).2

/-- The pairs that are written over in a happening. -/
def overwrites (run : GroupRun) (index : Nat) : List (String × Octets) :=
  (run.written? index).elim [] fun pair => Pairs.only (run.state index).world.cache.entries pair.1

/-- The pairs that the source has given before a time. -/
def loaded (run : GroupRun) (index : Nat) : List (String × Octets) :=
  (List.range index).filterMap run.written?

/-- The pairs that were forgotten before a time. -/
def forgotten (run : GroupRun) (index : Nat) : List (String × Octets) :=
  (List.range index).flatMap run.forgets

/-- The pairs that were written over before a time. -/
def overwritten (run : GroupRun) (index : Nat) : List (String × Octets) :=
  (List.range index).flatMap run.overwrites

theorem loaded_succ (run : GroupRun) (index : Nat) :
    run.loaded (index + 1) = run.loaded index ++ (run.written? index).toList := by
  rw [loaded, List.range_succ, List.filterMap_append]
  cases written : run.written? index <;> simp [loaded, written]

theorem flatMap_range_succ {α : Type} (part : Nat → List α) (index : Nat) :
    (List.range (index + 1)).flatMap part = (List.range index).flatMap part ++ part index := by
  rw [List.range_succ, List.flatMap_append, List.flatMap_singleton]

theorem forgotten_succ (run : GroupRun) (index : Nat) :
    run.forgotten (index + 1) = run.forgotten index ++ run.forgets index :=
  flatMap_range_succ run.forgets index

theorem overwritten_succ (run : GroupRun) (index : Nat) :
    run.overwritten (index + 1) = run.overwritten index ++ run.overwrites index :=
  flatMap_range_succ run.overwrites index

/-- Nothing comes and goes in a happening that writes nothing. -/
theorem lists_of_unwritten (unwritten : run.written? index = none) :
    run.loaded (index + 1) = run.loaded index ∧
      run.forgotten (index + 1) = run.forgotten index ∧
      run.overwritten (index + 1) = run.overwritten index := by
  rw [loaded_succ, forgotten_succ, overwritten_succ, forgets, overwrites, unwritten]
  simp

/-- What comes and goes in a happening that writes a value. -/
theorem lists_of_written (written : run.written? index = some (key, octets)) :
    run.loaded (index + 1) = run.loaded index ++ [(key, octets)] ∧
      run.forgotten (index + 1) = run.forgotten index ++
        ((run.state index).world.cache.put key octets).2 ∧
      run.overwritten (index + 1) = run.overwritten index ++
        Pairs.only (run.state index).world.cache.entries key := by
  rw [loaded_succ, forgotten_succ, overwritten_succ, forgets, overwrites, written]
  exact ⟨rfl, rfl, rfl⟩

/-! ## The account -/

/-- Two more lists may join others of their sorts. -/
theorem perm_append_sorts {α : Type} (kept front back fronts backs : List α) :
    (kept ++ front ++ back ++ (fronts ++ backs)).Perm
      (kept ++ (fronts ++ front ++ (backs ++ back))) := by
  simp only [← Multiset.coe_eq_coe, ← Multiset.coe_add]
  abel

/-- A happening that writes nothing leaves the pairs as they are, up to their order. -/
theorem entries_of_unwritten (limited : ∀ index, (run.state index).world.cache.Limited budget)
    (unwritten : run.written? index = none) :
    (run.state (index + 1)).world.cache.entries.Perm (run.state index).world.cache.entries :=
  (of_unwritten (limited index).formed unwritten).1

/-- A happening that writes a value does so with the pairs. -/
theorem entries_of_written (limited : ∀ index, (run.state index).world.cache.Limited budget)
    (written : run.written? index = some (key, octets)) :
    (run.state (index + 1)).world.cache.entries =
      (Pairs.put (run.state index).world.cache.entries budget key octets).1 := by
  obtain ⟨id, writes⟩ := writes_of_written written
  rw [writes.kept]
  exact (limited index).entries_put key octets

/-- What the source has given is kept, forgotten or written over. -/
theorem loaded_perm (empty : run.world.cache.store = none)
    (limited : ∀ index, (run.state index).world.cache.Limited budget) (index : Nat) :
    (run.loaded index).Perm ((run.state index).world.cache.entries ++
      (run.forgotten index ++ run.overwritten index)) := by
  induction index with
  | zero =>
      have nothing : (run.state 0).world.cache.entries = [] := by
        rw [LocalCache.entries, show (run.state 0).world.cache.store = none from empty]
        rfl
      rw [nothing]
      exact .refl _
  | succ index inductionHypothesis =>
      cases written : run.written? index with
      | none =>
          obtain ⟨sameLoaded, sameForgotten, sameOverwritten⟩ := lists_of_unwritten written
          rw [sameLoaded, sameForgotten, sameOverwritten]
          exact inductionHypothesis.trans
            ((entries_of_unwritten limited written).symm.append_right _)
      | some pair =>
          obtain ⟨key, octets⟩ := pair
          obtain ⟨nextLoaded, nextForgotten, nextOverwritten⟩ := lists_of_written written
          have moved := Pairs.put_perm (run.state index).world.cache.entries budget key octets
          rw [nextLoaded, nextForgotten, nextOverwritten, entries_of_written limited written,
            (limited index).forgotten_put]
          refine (List.perm_append_singleton _ _).trans ?_
          refine (inductionHypothesis.cons (key, octets)).trans ?_
          exact (moved.symm.append_right _).trans (perm_append_sorts _ _ _ _ _)

/-- The counters say how many pairs the source has given, and how many were forgotten. -/
theorem account_eq (fresh : run.world.counters = {})
    (limited : ∀ index, (run.state index).world.cache.Limited budget) (index : Nat) :
    (run.state index).world.account =
      ((run.loaded index).length, (run.forgotten index).length) := by
  induction index with
  | zero =>
      have initially : (run.state 0).world.counters = {} := fresh
      rw [GroupState.account, initially]
      rfl
  | succ index inductionHypothesis =>
      cases written : run.written? index with
      | none =>
          obtain ⟨sameLoaded, sameForgotten, _⟩ := lists_of_unwritten written
          rw [sameLoaded, sameForgotten, (of_unwritten (limited index).formed written).2]
          exact inductionHypothesis
      | some pair =>
          obtain ⟨key, octets⟩ := pair
          obtain ⟨nextLoaded, nextForgotten, _⟩ := lists_of_written written
          obtain ⟨id, writes⟩ := writes_of_written written
          obtain ⟨sameLoads, sameEvictions⟩ := Prod.mk.inj inductionHypothesis
          rw [writes.counted, GroupState.accountWith, sameLoads, sameEvictions, nextLoaded,
            nextForgotten, List.length_append, List.length_append, List.length_singleton]

/-- A budget is kept at all times. -/
theorem total_le (empty : run.world.cache.store = none)
    (limited : ∀ index, (run.state index).world.cache.Limited budget) (isLimit : budget ≠ 0)
    (index : Nat) : Pairs.total (run.state index).world.cache.entries ≤ budget := by
  induction index with
  | zero =>
      rw [LocalCache.entries, show (run.state 0).world.cache.store = none from empty]
      exact Nat.zero_le budget
  | succ index inductionHypothesis =>
      cases written : run.written? index with
      | none =>
          rw [Pairs.total_perm (entries_of_unwritten limited written)]
          exact inductionHypothesis
      | some pair =>
          rw [entries_of_written limited written]
          exact (Pairs.fitting_longest _ isLimit).2.1

/-! ## Lookups that are late -/

/-- Whether a lookup of a key is late: it had been told that a load gave nothing, and another load
of the key has given a value before it has gone on. -/
def Late (run : GroupRun) (index id : Nat) (key : String) : Prop :=
  ∃ time < index, (∃ octets, run.written? time = some (key, octets)) ∧
    run.ToldNothing (time + 1) id key

/-- Who is late stays so. -/
theorem Late.since (late : run.Late index id key) (after : index ≤ later) :
    run.Late later id key := by
  obtain ⟨time, before, written, told⟩ := late
  exact ⟨time, Nat.lt_of_lt_of_le before after, written, told⟩

/-- Who is late waited for a load of its key that was abandoned. -/
theorem Late.abandoned (late : run.Late index id key) :
    ∃ earlier < index, ∃ leader ticket, run.Abandons earlier leader key ticket ∧
      run.Waits earlier id key ticket := by
  obtain ⟨time, before, _, told⟩ := late
  obtain ⟨earlier, leader, ticket, isEarlier, abandons, waits⟩ := told.abandoned
  exact ⟨earlier, by omega, leader, ticket, abandons, waits⟩

/-- When a value is written, who has come for its key before either knows a result or is late. -/
theorem told_or_late_of_written (written : run.written? index = some (key, octets))
    {caller : Caller Unit Stage Result} (present : caller ∈ (run.state (index + 1)).callers)
    (sameKey : caller.key = key) :
    (∃ result, caller.phase = .told (some result)) ∨ run.Late (index + 1) caller.id key := by
  obtain ⟨id, writes⟩ := writes_of_written written
  obtain ⟨ticket, publishes⟩ := writes.publishes
  have free : ∀ record ∈ (run.state (index + 1)).records, record.1 ≠ caller.key :=
    sameKey ▸ publishes.ends.spent.2.1
  obtain ⟨result, phase⟩ := Run.told_of_free present free
  cases result with
  | some result => exact .inl ⟨result, phase⟩
  | none =>
      exact .inr ⟨index, Nat.lt_succ_self index, ⟨octets, written⟩, caller, present, rfl, sameKey,
        phase⟩

/-- A key that is kept was kept before, or a value of it has just been written. -/
theorem contains_origin (formed : ∀ index, (run.state index).world.cache.Formed)
    (resident : (run.state (index + 1)).world.cache.contains key) :
    (run.state index).world.cache.contains key ∨
      ∃ octets, run.written? index = some (key, octets) := by
  obtain ⟨value, listed⟩ := (formed (index + 1)).contains_iff.mp resident
  cases written : run.written? index with
  | none =>
      have before := (of_unwritten (formed index) written).1.mem_iff.mp listed
      exact .inl ((formed index).contains_iff.mpr ⟨value, before⟩)
  | some pair =>
      obtain ⟨writtenKey, octets⟩ := pair
      obtain ⟨id, writes⟩ := writes_of_written written
      rw [writes.kept] at listed
      rcases (formed index).entries_put writtenKey octets listed with isPair | ⟨before, _⟩
      · obtain ⟨rfl, rfl⟩ := Prod.mk.inj isPair
        exact .inr ⟨value, rfl⟩
      · exact .inl ((formed index).contains_iff.mpr ⟨value, before⟩)

/-- While a key is kept, who asks for it was told that a load gave nothing. -/
theorem toldNothing_of_asks (formed : ∀ index, (run.state index).world.cache.Formed)
    (resident : (run.state index).world.cache.contains key) (asks : run.Asks index id key) :
    run.ToldNothing index id key := by
  obtain ⟨plan, base, entrant⟩ := asks
  generalize run.happening index = happening at entrant
  cases entrant with
  | fresh key plan missed =>
      obtain ⟨value, _, answered⟩ := GroupState.greet_of_resident (formed index) resident
      have unanswered : ((run.state index).world.greet key).2 = none := missed
      rw [answered] at unanswered
      cases unanswered
  | woken caller present told => exact ⟨caller, present, rfl, rfl, told⟩

/-- While a key is kept, who is there for it knows a result or is late. -/
theorem told_or_late (empty : run.world.cache.store = none)
    (resident : (run.state index).world.cache.contains key) {caller : Caller Unit Stage Result}
    (present : caller ∈ (run.state index).callers) (sameKey : caller.key = key) :
    (∃ result, caller.phase = .told (some result)) ∨ run.Late index caller.id key := by
  induction index generalizing caller with
  | zero => cases present
  | succ index inductionHypothesis =>
      rcases contains_origin (run.formed empty) resident with before | ⟨octets, written⟩
      · rcases (run.effect index).origin present with
          ⟨old, oldPresent, sameId, oldKey, _⟩ | ⟨isNew, _, ⟨base, entrant⟩, _⟩
        · rcases inductionHypothesis before oldPresent (oldKey.trans sameKey) with
            ⟨result, told⟩ | late
          · -- Who knows a result keeps it until it is gone.
            have isTold : run.Told index old.id old.key result :=
              ⟨old, oldPresent, rfl, rfl, told⟩
            rcases isTold.next with ⟨⟨still, stillPresent, isStill, _, stillTold⟩, _⟩ | ⟨gone, _⟩
            · obtain rfl := (run.sound (index + 1)).sameCaller present stillPresent
                (sameId.symm.trans isStill.symm)
              exact .inl ⟨result, stillTold⟩
            · exact absurd sameId.symm (gone.2 caller present)
          · exact .inr (sameId ▸ late.since (Nat.le_succ index))
        · -- A new lookup would have been answered at once.
          have asks : run.Asks index caller.id key := sameKey ▸ ⟨caller.plan, base, entrant⟩
          obtain ⟨told, toldPresent, isTold, _⟩ :=
            toldNothing_of_asks (run.formed empty) before asks
          have numbered := (run.sound index).callersNumbered told toldPresent
          exact absurd numbered (by omega)
      · exact told_or_late_of_written written present sameKey

/-- While a key is kept, only late lookups make a pass of it. -/
theorem late_of_passes (empty : run.world.cache.store = none)
    (resident : (run.state index).world.cache.contains key)
    (passes : run.Leads index id key ticket ∨ run.Opens index id key ticket) :
    run.Late index id key := by
  rcases passes with ⟨leader, present, rfl, rfl, stage, leads⟩ | opens
  · rcases told_or_late empty resident present rfl with ⟨result, told⟩ | late
    · rw [leads] at told
      cases told
    · exact late
  · obtain ⟨caller, present, rfl, rfl, told⟩ :=
      toldNothing_of_asks (run.formed empty) resident opens.asks
    rcases told_or_late empty resident present rfl with ⟨result, alsoTold⟩ | late
    · rw [told] at alsoTold
      cases alsoTold
    · exact late

/-- While a key is kept, a load of it in flight is that of a late lookup. -/
theorem late_of_recorded (empty : run.world.cache.store = none)
    (resident : (run.state index).world.cache.contains key)
    (found : (key, ticket) ∈ (run.state index).records) :
    ∃ id, run.Leads index id key ticket ∧ run.Late index id key := by
  obtain ⟨leader, present, rfl, leads⟩ := (run.sound index).led _ found
  have isLeader : run.Leads index leader.id leader.key ticket := ⟨leader, present, rfl, rfl, leads⟩
  exact ⟨leader.id, isLeader, late_of_passes empty resident (.inl isLeader)⟩

/-- Only the pass of a key calls the source for it. -/
theorem passes_of_called (called : .called id (.load key) ∈ run.notices index) :
    ∃ ticket, run.Leads index id key ticket ∨ run.Opens index id key ticket := by
  cases Group.course_of_effect (run.effect index) with
  | idles uncalled unfinished world => exact absurd called (uncalled _ _)
  | starts own ownKey base entrant free calls progress started seen ended =>
      obtain ⟨rfl, listed⟩ := (seen _ _).mp called
      obtain ⟨_, _, draws, _⟩ := GroupState.draws_start base.world ownKey
      rw [started] at draws
      obtain rfl := draws.asks key listed
      exact ⟨_, .inr ⟨entrant.opens free, rfl⟩⟩
  | resumes leader present ticket stage leads outcome finished calls progress resumed seen ended =>
      obtain ⟨rfl, listed⟩ := (seen _ _).mp called
      obtain rfl : key = leader.key := by
        cases stage with
        | loading =>
            have pass : (_, [], _) = (_, calls, progress) := resumed
            rw [← (Prod.mk.inj (Prod.mk.inj pass).2).1] at listed
            cases listed
        | fetching peer =>
            obtain ⟨_, draws, _⟩ :=
              GroupState.draws_fetched (run.state index).world leader.key outcome
            rw [show (run.state index).world.fetched leader.key outcome = (_, calls, progress) from
              resumed] at draws
            exact draws.asks key listed
      exact ⟨ticket, .inl ⟨leader, present, rfl, rfl, stage, leads⟩⟩

/-- While a key is kept, only late lookups call the source for it. -/
theorem late_of_called (empty : run.world.cache.store = none)
    (resident : (run.state index).world.cache.contains key)
    (called : .called id (.load key) ∈ run.notices index) : run.Late index id key := by
  obtain ⟨ticket, passes⟩ := passes_of_called called
  exact late_of_passes empty resident passes

/-- Only late lookups write over a pair. -/
theorem late_of_overwritten (empty : run.world.cache.store = none) {pair : String × Octets}
    (mem : pair ∈ run.overwritten index) :
    ∃ time < index, ∃ id ticket value, run.Publishes time id pair.1 ticket (.ok value) ∧
      run.Late time id pair.1 := by
  obtain ⟨time, inRange, listed⟩ := List.mem_flatMap.mp mem
  rw [overwrites] at listed
  cases written : run.written? time with
  | none =>
      rw [written] at listed
      cases listed
  | some new =>
      obtain ⟨key, octets⟩ := new
      rw [written] at listed
      obtain ⟨kept, isKey⟩ := List.mem_filter.mp listed
      obtain rfl : pair.1 = key := by simpa using isKey
      obtain ⟨id, writes⟩ := writes_of_written written
      obtain ⟨ticket, publishes⟩ := writes.publishes
      have resident : (run.state time).world.cache.contains pair.1 :=
        (run.formed empty time).contains_iff.mpr ⟨pair.2, kept⟩
      exact ⟨time, List.mem_range.mp inRange, id, ticket, octets, publishes,
        late_of_passes empty resident publishes.2⟩

/-! ## The ledger -/

/-- What the values from the source amount to at a time of a run within a budget. -/
structure Placed (run : GroupRun) (budget index : Nat) : Prop where
  /-- Every pair that the source has given is in one place. -/
  places : (run.loaded index).Perm ((run.state index).world.cache.entries ++
    (run.forgotten index ++ run.overwritten index))
  /-- This can be counted key by key. -/
  keys : ∀ key, Pairs.occurs (run.loaded index) key =
    Pairs.occurs (run.forgotten index) key + Pairs.occurs (run.overwritten index) key +
      (Group.isCached (run.state index) key).toNat
  /-- It is what the group has counted. -/
  loads : (Group.snapshot (run.state index)).localLoads = (run.loaded index).length
  evictions : (Group.snapshot (run.state index)).evictions = (run.forgotten index).length
  total : (Group.snapshot (run.state index)).localLoads =
    (Group.snapshot (run.state index)).entries + (Group.snapshot (run.state index)).evictions +
      (run.overwritten index).length
  /-- Every key that is kept has one pair. -/
  differ : ((run.state index).world.cache.entries.map Prod.fst).Nodup
  resident : ∀ key, Group.isCached (run.state index) key ↔
    ∃ value, (key, value) ∈ (run.state index).world.cache.entries
  /-- The pairs are accounted for, and keep the budget. -/
  bytes : (Group.snapshot (run.state index)).bytes =
    Pairs.total (run.state index).world.cache.entries
  limit : budget ≠ 0 → (Group.snapshot (run.state index)).bytes ≤ budget

/-- Whether a key is not being loaded at a time of a run. -/
structure Unloaded (run : GroupRun) (index : Nat) (key : String) : Prop where
  /-- No load of it is in flight. -/
  free : ∀ record ∈ (run.state index).records, record.1 ≠ key
  /-- The source is not called for it. -/
  uncalled : ∀ id, .called id (.load key) ∉ run.notices index

/-- At all times of a run from a group without values, these are where they should be. -/
theorem placed (fresh : run.world.counters = {}) (limit : run.world.cache = { budget := budget })
    (index : Nat) : run.Placed budget index := by
  have limited : ∀ index, (run.state index).world.cache.Limited budget := fun index =>
    ((GroupState.limited_invariant budget).always run (limit ▸ .empty budget) index).1
  have empty : run.world.cache.store = none := by rw [limit]
  have formed := (limited index).formed
  have places := loaded_perm empty limited index
  obtain ⟨loads, evictions⟩ := Prod.mk.inj (account_eq fresh limited index)
  refine ⟨places, fun key => ?_, loads, evictions, ?_, formed.keys_nodup,
    fun key => formed.contains_iff, formed.used_eq, fun isLimit => ?_⟩
  · rw [Pairs.occurs_perm places, Pairs.occurs_append, Pairs.occurs_append, formed.occurs_eq key,
      Nat.add_comm]
    rfl
  · rw [show (Group.snapshot (run.state index)).localLoads = _ from loads,
      show (Group.snapshot (run.state index)).evictions = _ from evictions, places.length_eq,
      List.length_append, List.length_append, ← Nat.add_assoc]
    congr 2
    exact formed.size_eq.symm
  · have within := total_le empty limited isLimit index
    rw [← formed.used_eq] at within
    exact within

/-- As long as nobody is late for a key that is kept, it is not being loaded. -/
theorem unloaded (empty : run.world.cache.store = none)
    (resident : (run.state index).world.cache.contains key)
    (prompt : ∀ id, ¬ run.Late index id key) : run.Unloaded index key where
  free := by
    rintro ⟨other, ticket⟩ found rfl
    obtain ⟨id, _, late⟩ := late_of_recorded empty resident found
    exact prompt id late
  uncalled id called := prompt id (late_of_called empty resident called)

/-- As long as nobody is late for a key, its pairs are not written over. -/
theorem occurs_overwritten_of_prompt (empty : run.world.cache.store = none)
    (prompt : ∀ id, ¬ run.Late index id key) : Pairs.occurs (run.overwritten index) key = 0 := by
  refine Pairs.occurs_absent ?_
  rintro pair mem rfl
  obtain ⟨time, before, id, _, _, _, late⟩ := late_of_overwritten empty mem
  exact prompt id (late.since (Nat.le_of_lt before))

/-- In every run of a group, at all times: every value that the source has given is kept, was
forgotten to keep the budget, or was written over, which the counters of the group agree with; and
what is kept keeps the budget. A key that is kept is loaded by late lookups only, of whom each had
waited for a load of the key that was abandoned; and only their loads write over values. As long as
nobody is late for a key, the number of its values from the source is the number of its pairs that
were forgotten, and one more if it is kept; and while it is kept, it is not being loaded. As long as
nobody is late for any key, the values that were counted are those that are kept and those whose
eviction was counted. -/
theorem values_are_kept_forgotten_or_overwritten (name : String) (budget : Nat) (source : Source)
    (happening : Nat → Happening (Option Picker) Unit) :
    let run : GroupRun := .create name budget source happening
    (∀ time key octets, run.written? time = some (key, octets) ↔
      ∃ id outcome, run.LoadEnds time id key outcome ∧ outcome.answer? = some (.ok octets)) ∧
    ∀ index,
      run.Placed budget index ∧
      (∀ key ticket, Group.isCached (run.state index) key →
        (key, ticket) ∈ (run.state index).records →
        ∃ id, run.Leads index id key ticket ∧ run.Late index id key) ∧
      (∀ key id, Group.isCached (run.state index) key →
        .called id (.load key) ∈ run.notices index → run.Late index id key) ∧
      (∀ pair ∈ run.overwritten index, ∃ time < index, ∃ id ticket value,
        run.Publishes time id pair.1 ticket (.ok value) ∧ run.Late time id pair.1) ∧
      (∀ key id, run.Late index id key → ∃ time < index, ∃ leader ticket,
        run.Abandons time leader key ticket ∧ run.Waits time id key ticket) ∧
      (∀ key, (∀ id, ¬ run.Late index id key) →
        Pairs.occurs (run.loaded index) key = Pairs.occurs (run.forgotten index) key +
          (Group.isCached (run.state index) key).toNat ∧
        (Group.isCached (run.state index) key → run.Unloaded index key)) ∧
      ((∀ key id, ¬ run.Late index id key) →
        (Group.snapshot (run.state index)).localLoads =
          (Group.snapshot (run.state index)).entries +
            (Group.snapshot (run.state index)).evictions) := by
  intro run
  have empty : run.world.cache.store = none := rfl
  refine ⟨fun _ _ _ => written?_eq_some, fun index => ?_⟩
  have placed : run.Placed budget index := placed rfl rfl index
  refine ⟨placed, fun _ _ resident found => late_of_recorded empty resident found,
    fun _ _ resident called => late_of_called empty resident called,
    fun _ mem => late_of_overwritten empty mem, fun _ _ late => late.abandoned, ?_, ?_⟩
  · intro key prompt
    refine ⟨?_, fun resident => unloaded empty resident prompt⟩
    rw [placed.keys key, occurs_overwritten_of_prompt empty prompt, Nat.add_zero]
  · intro prompt
    have nothing : run.overwritten index = [] := by
      refine List.eq_nil_iff_forall_not_mem.mpr fun pair mem => ?_
      obtain ⟨time, before, id, _, _, _, late⟩ := late_of_overwritten empty mem
      exact prompt pair.1 id (late.since (Nat.le_of_lt before))
    rw [placed.total, nothing, List.length_nil, Nat.add_zero]

/-- A lookup that waits for a load that is cancelled loads the key once more when another one has
taken over and ended before. -/
theorem late_lookup_loads_again :
    let reached := (Group.run
      (Group.create "g" 0 ⟨fun calls _ => if calls = 0 then .held else .now (.value [65])⟩)
      [.lookup "k", .lookup "k", .lookup "k", .cancelLeader "k"]).1
    reached.told = [] ∧ (Group.snapshot reached).localLoads = 2 ∧
      (Group.snapshot reached).entries + (Group.snapshot reached).evictions = 1 := by
  intro reached
  have kept : reached.world.cache =
    (((LocalCache.put { budget := 0 } "k" [65]).1).put "k" [65]).1 := rfl
  have evicted : (Group.snapshot reached).evictions =
    0 + (LocalCache.put { budget := 0 } "k" [65]).2.length +
      (((LocalCache.put { budget := 0 } "k" [65]).1).put "k" [65]).2.length := rfl
  have initially : LocalCache.Limited 0 { budget := 0 } := .empty 0
  have once := initially.put (by decide : "k" ≠ "") [65]
  have onceEntries := initially.entries_put "k" [65]
  have twice := once.put (by decide : "k" ≠ "") [65]
  have twiceEntries := once.entries_put "k" [65]
  have entries : (Group.snapshot reached).entries = 1 := by
    rw [Group.snapshot]
    dsimp only
    rw [kept, twice.formed.size_eq, twiceEntries, onceEntries]
    rfl
  have evictions : (Group.snapshot reached).evictions = 0 := by
    rw [evicted, initially.forgotten_put, once.forgotten_put, onceEntries]
    rfl
  refine ⟨rfl, rfl, ?_⟩
  rw [entries, evictions]

end GroupRun

end RingCache
