import RingCache.Proofs.Recency.Refinement

/-!
# What holds of the slots of every store

The slots, the links, the index and the account of octets say the same thing four times,
and `Store.Sound` says so without an order that is given from outside: whoever follows the
older links from the newest slot passes every slot once and ends at the oldest one, the
newer links lead back the same way, the index leads from each key to its slot, and the
account is the sum over the slots.

An arranged store is sound (`Arranged.sound`), and every store that comes out of an empty one
is arranged in some order (`Store.wellFormed_after`).
-/

namespace RingCache.Recency

/-! ## Neighbours in chains -/

section Chains

variable {α : Type} {older newer : α → α} {places : List α} {place first last : α}

/-- Every place of a chain but the last one has an older neighbour. -/
theorem Chained.exists_older (chained : Chained older newer (places ++ [last]))
    (mem : place ∈ places) : ∃ next ∈ places ++ [last], Joined older newer place next := by
  obtain ⟨before, after, rfl⟩ := List.append_of_mem mem
  obtain ⟨next, rest, behind⟩ : ∃ next rest, after ++ [last] = next :: rest :=
    List.exists_cons_of_ne_nil (by simp)
  have laidOut : before ++ place :: after ++ [last] = before ++ place :: next :: rest := by
    rw [List.append_assoc, List.cons_append, behind]
  rw [Chained, laidOut, List.isChain_append_cons_cons] at chained
  exact ⟨next, by simp [laidOut], chained.2.1⟩

/-- Every place of a chain but the first one has a newer neighbour. -/
theorem Chained.exists_newer (chained : Chained older newer (first :: places))
    (mem : place ∈ places) : ∃ next ∈ first :: places, Joined older newer next place := by
  obtain ⟨before, after, rfl⟩ := List.append_of_mem mem
  obtain ⟨front, next, ahead⟩ : ∃ front next, first :: before = front ++ [next] :=
    ⟨_, _, (List.dropLast_append_getLast (List.cons_ne_nil first before)).symm⟩
  have laidOut : first :: (before ++ place :: after) = front ++ next :: place :: after := by
    rw [← List.cons_append, ahead, List.append_assoc, List.singleton_append]
  rw [Chained, laidOut, List.isChain_append_cons_cons] at chained
  exact ⟨next, by simp [laidOut], chained.2.1⟩

end Chains

namespace Store

variable {V : Type} {store : Store V} {order : List Nat}

/-- A walk along the older links, with no bound on its steps: it passes the slots of a
list and ends where no slot is older. From a place that is no slot there is none. -/
inductive Walks (store : Store V) : Option Nat → List Nat → Prop where
  | ends : Walks store none []
  | passes {place : Nat} {slot : Slot V} {rest : List Nat}
      (found : store.slots[place]? = some slot) (goesOn : Walks store slot.older rest) :
      Walks store (some place) (place :: rest)

/-- There is only one walk from a place. -/
theorem Walks.unique {start : Option Nat} {passed others : List Nat}
    (walks : store.Walks start passed) (walksOther : store.Walks start others) :
    passed = others := by
  induction walks generalizing others with
  | ends =>
      cases walksOther
      rfl
  | passes found _ inductionHypothesis =>
      cases walksOther with
      | passes foundOther goesOn =>
          rw [found] at foundOther
          cases foundOther
          rw [inductionHypothesis goesOn]

/-- Slots, links, index and account agree with each other. -/
structure Sound [HasSize V] (store : Store V) : Prop where
  /-- From the newest slot on, the older links pass every slot once and end at the
  oldest one. -/
  walks : ∃ order, store.Walks store.newest order ∧
    order.Perm (List.range store.slots.size) ∧ order.getLast? = store.oldest
  /-- No link leads out of the slots. -/
  closed : ∀ place, store.Within place →
    store.Within (store.olderOf place) ∧ store.Within (store.newerOf place)
  /-- The newer links are the inverse of the older ones, at the ends as well. -/
  inverse : ∀ left right, store.Within left → store.Within right →
    (store.olderOf left = right ↔ store.newerOf right = left)
  /-- There is a newest and an oldest slot unless there is no slot. -/
  ends : (store.newest = none ↔ store.slots.size = 0) ∧
    (store.oldest = none ↔ store.slots.size = 0)
  /-- The index leads from each key to the slot that holds it, and from nothing else. -/
  indexed : ∀ key place, store.index[key]? = some place ↔
    ∃ slot : Slot V, store.slots[place]? = some slot ∧ slot.key = key
  /-- No two slots hold one key. -/
  distinct : ∀ (place other : Nat) (slot otherSlot : Slot V), store.slots[place]? = some slot →
    store.slots[other]? = some otherSlot → slot.key = otherSlot.key → place = other
  /-- The account of octets is the sum of what the slots cost. -/
  used : store.used = Pairs.total (store.slots.toList.map fun slot => (slot.key, slot.value))

/-! ## Arranged stores -/

/-- A chain is a walk. -/
theorem walks_of_chained {back : List Nat} {start : Option Nat}
    (chained : Chained store.olderOf store.newerOf (start :: (back.map some ++ [none])))
    (bounds : ∀ slot ∈ back, slot < store.slots.size) :
    store.Walks (store.olderOf start) back := by
  induction back generalizing start with
  | nil =>
      have ends : store.olderOf start = none := (List.isChain_cons_cons.mp chained).1.1
      rw [ends]
      exact .ends
  | cons place back inductionHypothesis =>
      obtain ⟨⟨leads, _⟩, rest⟩ := List.isChain_cons_cons.mp chained
      obtain ⟨slot, found⟩ : ∃ slot, store.slots[place]? = some slot :=
        ⟨_, Array.getElem?_eq_getElem (bounds place (by simp))⟩
      have older : store.olderOf (some place) = slot.older := by simp [olderOf, found]
      have goesOn := inductionHypothesis rest fun other mem => bounds other (by simp [mem])
      rw [leads]
      exact .passes found (older ▸ goesOn)

/-- The pairs in all slots, in the order of the slots. -/
theorem pairsAt_range (store : Store V) : store.pairsAt (List.range store.slots.size) =
    store.slots.toList.map fun slot => (slot.key, slot.value) := by
  have pairs : ∀ slots : List (Slot V),
      (List.range slots.length).filterMap
          (fun place => slots[place]?.map fun slot => (slot.key, slot.value)) =
        slots.map fun slot => (slot.key, slot.value) := by
    intro slots
    induction slots using List.reverseRecOn with
    | nil => rfl
    | append_singleton front slot inductionHypothesis =>
        rw [List.length_append, List.length_singleton, List.range_succ, List.filterMap_append,
          List.map_append, ← inductionHypothesis]
        congr 1
        · refine List.filterMap_congr fun place mem => ?_
          rw [List.getElem?_append_left (List.mem_range.mp mem)]
        · simp
  rw [pairsAt, ← Array.length_toList, ← pairs store.slots.toList]
  refine List.filterMap_congr fun place _ => ?_
  rw [pairAt?, Array.getElem?_toList]

section Arranged

variable [HasSize V]

namespace Arranged

theorem mem_of_within (arranged : store.Arranged order) {place : Option Nat}
    (within : store.Within place) : place ∈ none :: order.map some := by
  cases place with
  | none => exact List.mem_cons_self
  | some slot => simpa using arranged.mem_iff.mpr (within slot rfl)

/-- The older neighbour of a place lies in the store, and leads back. -/
theorem joined_older (arranged : store.Arranged order) {place : Option Nat}
    (within : store.Within place) : store.Within (store.olderOf place) ∧
      store.newerOf (store.olderOf place) = place := by
  have linked : Chained store.olderOf store.newerOf ((none :: order.map some) ++ [none]) :=
    arranged.linked
  obtain ⟨next, mem, older, newer⟩ := linked.exists_older (arranged.mem_of_within within)
  rw [older]
  exact ⟨within_of_mem_circuit arranged.bounds mem, newer⟩

/-- The newer neighbour of a place lies in the store, and leads back. -/
theorem joined_newer (arranged : store.Arranged order) {place : Option Nat}
    (within : store.Within place) : store.Within (store.newerOf place) ∧
      store.olderOf (store.newerOf place) = place := by
  have mem : place ∈ order.map some ++ [none] := by
    have listed := arranged.mem_of_within within
    rw [List.mem_cons] at listed
    rw [List.mem_append, List.mem_singleton]
    exact listed.symm
  obtain ⟨next, nextMem, older, newer⟩ := Chained.exists_newer arranged.linked mem
  rw [newer]
  exact ⟨within_of_mem_circuit arranged.bounds nextMem, older⟩

/-- The newest slot starts the order. -/
theorem newest_eq (arranged : store.Arranged order) : store.newest = order.head? := by
  have chained := arranged.linked
  cases order with
  | nil => exact (List.isChain_pair.mp chained).1
  | cons place rest => exact (List.isChain_cons_cons.mp chained).1.1

theorem indexed_slot (arranged : store.Arranged order) (key : String) (place : Nat) :
    store.index[key]? = some place ↔ ∃ slot, store.slots[place]? = some slot ∧ slot.key = key := by
  rw [arranged.indexed]
  simp only [pairAt?, Option.map_eq_some_iff, Prod.mk.injEq]
  constructor
  · rintro ⟨_, slot, found, isKey, _⟩
    exact ⟨slot, found, isKey⟩
  · rintro ⟨slot, found, isKey⟩
    exact ⟨slot.value, slot, found, isKey, rfl⟩

/-- The order of an arranged store is the walk from its newest slot. -/
theorem walks (arranged : store.Arranged order) : store.Walks store.newest order :=
  walks_of_chained arranged.linked arranged.bounds

theorem sound (arranged : store.Arranged order) : store.Sound where
  walks := ⟨order, arranged.walks, arranged.perm, arranged.oldest_eq.symm⟩
  closed _ within := ⟨(arranged.joined_older within).1, (arranged.joined_newer within).1⟩
  inverse left right withinLeft withinRight := by
    constructor
    · rintro rfl
      exact (arranged.joined_older withinLeft).2
    · rintro rfl
      exact (arranged.joined_newer withinRight).2
  ends := by
    rw [arranged.newest_eq, arranged.oldest_eq, List.head?_eq_none_iff, List.getLast?_eq_none_iff,
      ← arranged.length, List.length_eq_zero_iff]
    exact ⟨.rfl, .rfl⟩
  indexed := arranged.indexed_slot
  distinct place other slot otherSlot found otherFound sameKey := by
    have indexed := (arranged.indexed_slot slot.key place).mpr ⟨slot, found, rfl⟩
    rw [(arranged.indexed_slot slot.key other).mpr ⟨otherSlot, otherFound, sameKey.symm⟩] at indexed
    exact (Option.some.inj indexed).symm
  used := by
    have perm : (store.pairsAt order).Perm (store.pairsAt (List.range store.slots.size)) :=
      arranged.perm.filterMap _
    rw [arranged.used, Pairs.total_perm perm, pairsAt_range]

end Arranged

/-! ## Stores that come out of an empty one -/

/-- The store after operations. -/
def after (store : Store V) (operations : List (Operation V)) : Store V :=
  operations.foldl (fun store operation => (store.perform operation).1) store

theorem WellFormed.after (wellFormed : store.WellFormed) (operations : List (Operation V)) :
    (store.after operations).WellFormed := by
  induction operations generalizing store with
  | nil => exact wellFormed
  | cons operation rest inductionHypothesis =>
      exact inductionHypothesis (wellFormed.perform_eq operation).2.1

theorem wellFormed_after (budget : Nat) (operations : List (Operation V)) :
    ((Store.empty budget : Store V).after operations).WellFormed :=
  WellFormed.after ⟨[], arranged_empty budget⟩ operations

end Arranged

end Store

end RingCache.Recency
