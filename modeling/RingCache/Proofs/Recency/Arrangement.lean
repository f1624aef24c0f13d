import Mathlib.Data.List.Perm.Basic
import Mathlib.Data.List.Range
import RingCache.Proofs.Recency.Links
import RingCache.Proofs.Recency.Pairs

/-!
# Stores as pairs in an order

`Arranged store order` is the invariant of a store: the order passes every slot
once, the links run through it, the index leads from each key to the slot that
holds it, and the account of octets is right. Every operation on an arranged
store gives an arranged store again, and its pairs are those that the operation
on pairs gives.
-/

namespace RingCache.Recency

namespace Store

variable {V : Type} {store next : Store V} {order : List Nat} {key : String} {place : Nat}

/-- The pairs in some slots, in the order of the slots. -/
def pairsAt (store : Store V) (order : List Nat) : Pairs V :=
  order.filterMap store.pairAt?

@[simp] theorem pairsAt_nil : store.pairsAt [] = [] := rfl

@[simp] theorem pairsAt_append (front back : List Nat) :
    store.pairsAt (front ++ back) = store.pairsAt front ++ store.pairsAt back := by
  simp [pairsAt]

theorem pairsAt_cons {slot : Slot V} (found : store.slots[place]? = some slot)
    (back : List Nat) :
    store.pairsAt (place :: back) = (slot.key, slot.value) :: store.pairsAt back := by
  simp [pairsAt, pairAt?, found]

/-- The slots of a store form an order of recency. -/
structure Arranged [HasSize V] (store : Store V) (order : List Nat) : Prop where
  /-- Every slot occurs once. -/
  perm : order.Perm (List.range store.slots.size)
  /-- The links run through the order. -/
  linked : store.Linked order
  /-- The index knows the slot of each key. -/
  indexed : ∀ key place,
    store.index[key]? = some place ↔ ∃ value, store.pairAt? place = some (key, value)
  /-- The account of octets is right. -/
  used : store.used = Pairs.total (store.pairsAt order)

/-- Following the older links from a place lists the pairs of the slots behind
it. -/
theorem entriesFrom_eq {back : List Nat} {start : Option Nat} {steps : Nat}
    (chained : Chained store.olderOf store.newerOf (start :: (back.map some ++ [none])))
    (bounds : ∀ slot ∈ back, slot < store.slots.size) (enough : back.length ≤ steps) :
    store.entriesFrom steps (store.olderOf start) = store.pairsAt back := by
  induction back generalizing start steps with
  | nil =>
      have ends : store.olderOf start = none := (List.isChain_cons_cons.mp chained).1.1
      rw [ends]
      cases steps <;> rfl
  | cons place back inductionHypothesis =>
      obtain ⟨⟨leads, _⟩, rest⟩ := List.isChain_cons_cons.mp chained
      obtain ⟨slot, found⟩ : ∃ slot, store.slots[place]? = some slot :=
        ⟨_, Array.getElem?_eq_getElem (bounds place (by simp))⟩
      cases steps with
      | zero => simp at enough
      | succ steps =>
          have older : slot.older = store.olderOf (some place) := by simp [olderOf, found]
          rw [leads, pairsAt_cons found, entriesFrom]
          simp only [found]
          rw [older, inductionHypothesis rest (fun other mem => bounds other (by simp [mem]))
            (by simpa using enough)]

section Arranged

variable [HasSize V]

theorem Arranged.nodup (arranged : store.Arranged order) : order.Nodup :=
  arranged.perm.nodup_iff.mpr List.nodup_range

theorem Arranged.mem_iff (arranged : store.Arranged order) :
    place ∈ order ↔ place < store.slots.size := by
  rw [arranged.perm.mem_iff, List.mem_range]

theorem Arranged.bounds (arranged : store.Arranged order) :
    ∀ slot ∈ order, slot < store.slots.size :=
  fun _ mem => arranged.mem_iff.mp mem

theorem Arranged.length (arranged : store.Arranged order) : order.length = store.slots.size := by
  rw [arranged.perm.length_eq, List.length_range]

theorem arranged_empty (budget : Nat) : (Store.empty budget : Store V).Arranged [] where
  perm := .refl _
  linked := List.isChain_pair.mpr ⟨rfl, rfl⟩
  indexed := by simp [Store.empty, pairAt?]
  used := rfl

/-- The entries of an arranged store are the pairs in its order. -/
theorem Arranged.entries_eq (arranged : store.Arranged order) :
    store.entries = store.pairsAt order :=
  entriesFrom_eq arranged.linked arranged.bounds (Nat.le_of_eq arranged.length)

/-- There are as many entries as slots. -/
theorem Arranged.length_entries (arranged : store.Arranged order) :
    store.entries.length = store.size := by
  rw [arranged.entries_eq, Store.size, ← arranged.length, pairsAt,
    List.filterMap_length_eq_length]
  intro slot mem
  simp [pairAt?, arranged.bounds slot mem]

/-- The account of octets is what the entries cost. -/
theorem Arranged.used_eq (arranged : store.Arranged order) :
    store.used = Pairs.total store.entries := by
  rw [arranged.used, arranged.entries_eq]

/-- A slot belongs to one key. -/
theorem Arranged.key_unique (arranged : store.Arranged order) {other : String}
    (indexed : store.index[key]? = some place) (otherIndexed : store.index[other]? = some place) :
    key = other := by
  obtain ⟨value, found⟩ := (arranged.indexed key place).mp indexed
  obtain ⟨otherValue, otherFound⟩ := (arranged.indexed other place).mp otherIndexed
  rw [found] at otherFound
  cases otherFound
  rfl

/-- A pair of the store lies in the slot that the index knows for its key. -/
theorem Arranged.index_of_mem (arranged : store.Arranged order) {pair : String × V}
    (mem : pair ∈ store.entries) : ∃ place ∈ order, store.index[pair.1]? = some place := by
  rw [arranged.entries_eq, pairsAt, List.mem_filterMap] at mem
  obtain ⟨place, placeMem, found⟩ := mem
  exact ⟨place, placeMem, (arranged.indexed pair.1 place).mpr ⟨pair.2, found⟩⟩

/-- A key without a slot has no pair. -/
theorem Arranged.ne_of_unindexed (arranged : store.Arranged order)
    (unindexed : store.index[key]? = none) : ∀ pair ∈ store.entries, pair.1 ≠ key := by
  rintro pair mem rfl
  obtain ⟨place, _, indexed⟩ := arranged.index_of_mem mem
  rw [unindexed] at indexed
  cases indexed

/-- A key with a slot has one pair, which lies in that slot. -/
theorem Arranged.split (arranged : store.Arranged order)
    (indexed : store.index[key]? = some place) :
    ∃ front back slot, order = front ++ place :: back ∧ store.slots[place]? = some slot ∧
      slot.key = key ∧
      store.entries = store.pairsAt front ++ (key, slot.value) :: store.pairsAt back ∧
      ∀ pair ∈ store.pairsAt front ++ store.pairsAt back, pair.1 ≠ key := by
  obtain ⟨value, pairEq⟩ := (arranged.indexed key place).mp indexed
  obtain ⟨slot, found, slotEq⟩ := Option.map_eq_some_iff.mp pairEq
  cases slotEq
  have bound : place < store.slots.size := by
    by_contra outside
    simp [Array.getElem?_eq_none_iff.mpr (Nat.le_of_not_lt outside)] at found
  obtain ⟨front, back, rfl⟩ := List.append_of_mem (arranged.mem_iff.mpr bound)
  refine ⟨front, back, slot, rfl, found, rfl, ?_, ?_⟩
  · rw [arranged.entries_eq, pairsAt_append, pairsAt_cons found]
  · intro pair mem same
    rw [← pairsAt_append, pairsAt, List.mem_filterMap] at mem
    obtain ⟨other, otherMem, otherEq⟩ := mem
    have otherIndexed : store.index[slot.key]? = some other :=
      (arranged.indexed _ other).mpr ⟨pair.2, by rw [otherEq, ← same]⟩
    rw [indexed] at otherIndexed
    cases otherIndexed
    exact (List.nodup_cons.mp (List.nodup_middle.mp arranged.nodup)).1 otherMem

/-- A key has a slot exactly when it has a pair. -/
theorem Arranged.contains_eq (arranged : store.Arranged order) (key : String) :
    store.contains key = Pairs.contains store.entries key := by
  rw [Store.contains, Std.HashMap.contains_eq_isSome_getElem?]
  cases indexed : store.index[key]? with
  | none =>
      have absent := arranged.ne_of_unindexed indexed
      symm
      simpa [Pairs.contains] using absent
  | some place =>
      obtain ⟨front, back, slot, _, _, _, entriesEq, _⟩ := arranged.split indexed
      rw [entriesEq]
      simp [Pairs.contains]

/-! ## Making a slot the newest -/

/-- Other links along a rearranged order keep the store arranged. -/
theorem Arranged.relink {order' : List Nat} (arranged : store.Arranged order)
    (same : Relinked store next) (linked : next.Linked order') (perm : order'.Perm order) :
    next.Arranged order' where
  perm := by
    rw [same.size]
    exact perm.trans arranged.perm
  linked := linked
  indexed := by
    rw [same.index, same.pairs]
    exact arranged.indexed
  used := by
    rw [same.used, arranged.used, pairsAt, pairsAt, same.pairs]
    exact Pairs.total_perm (perm.symm.filterMap _)

theorem Arranged.promote {front back : List Nat}
    (arranged : store.Arranged (front ++ place :: back)) :
    (store.promote place).Arranged (place :: (front ++ back)) :=
  arranged.relink (relinked_promote place)
    (linked_promote arranged.linked arranged.nodup arranged.bounds) List.perm_middle.symm

end Arranged

/-- The slots of a store form some order of recency. -/
def WellFormed [HasSize V] (store : Store V) : Prop :=
  ∃ order, store.Arranged order

section WellFormed

variable [HasSize V]

/-- Reading a key gives the value of its pair and moves the pair to the front. -/
theorem WellFormed.get?_eq (wellFormed : store.WellFormed) (key : String) :
    Pairs.get? store.entries key =
        (store.get? key).map (fun found => (found.1, found.2.entries)) ∧
      ∀ value next, store.get? key = some (value, next) →
        next.WellFormed ∧ next.budget = store.budget := by
  obtain ⟨order, arranged⟩ := wellFormed
  cases indexed : store.index[key]? with
  | none =>
      have missing : store.get? key = none := by simp [Store.get?, indexed]
      rw [missing, Pairs.get?_absent (arranged.ne_of_unindexed indexed)]
      exact ⟨rfl, fun _ _ found => nomatch found⟩
  | some place =>
      obtain ⟨front, back, slot, rfl, found, rfl, entriesEq, others⟩ := arranged.split indexed
      have read : store.get? slot.key = some (slot.value, store.promote place) := by
        simp [Store.get?, indexed, found]
      have promoted := arranged.promote
      have same : Relinked store (store.promote place) := relinked_promote place
      have promotedEntries : (store.promote place).entries =
          (slot.key, slot.value) :: (store.pairsAt front ++ store.pairsAt back) := by
        rw [promoted.entries_eq, pairsAt, same.pairs]
        exact (pairsAt_cons found _).trans (by rw [pairsAt_append])
      constructor
      · rw [entriesEq, Pairs.get?_split others, read, Option.map_some, promotedEntries]
      · rintro value next readAs
        rw [read] at readAs
        cases readAs
        exact ⟨⟨_, promoted⟩, same.budget⟩

/-! ## Writing -/

/-- A store with one more pair, in a slot outside the links. -/
def append (store : Store V) (key : String) (value : V) : Store V :=
  { store with
    slots := store.slots.push { key := key, value := value }
    index := store.index.insert key store.slots.size
    used := store.used + cost key value }

omit [HasSize V] in
/-- A slot outside the links has none of its own. -/
theorem links_push (slot : Slot V) (alone : slot.newer = none ∧ slot.older = none)
    (changed : Store V) (slots : changed.slots = store.slots.push slot)
    (ends : changed.newest = store.newest ∧ changed.oldest = store.oldest) :
    changed.olderOf = store.olderOf ∧ changed.newerOf = store.newerOf := by
  constructor
  · funext asked
    cases asked with
    | none => exact ends.1
    | some asked =>
        simp only [olderOf, slots, Array.getElem?_push]
        split
        · rename_i isNew
          simp [isNew, alone]
        · rfl
  · funext asked
    cases asked with
    | none => exact ends.2
    | some asked =>
        simp only [newerOf, slots, Array.getElem?_push]
        split
        · rename_i isNew
          simp [isNew, alone]
        · rfl

theorem pairAt?_append (key : String) (value : V) (asked : Nat) :
    (store.append key value).pairAt? asked =
      if asked = store.slots.size then some (key, value) else store.pairAt? asked := by
  simp only [append, pairAt?, Array.getElem?_push]
  split <;> rfl

/-- Writing to a new key puts its pair in front. -/
theorem Arranged.push (arranged : store.Arranged order)
    (unindexed : store.index[key]? = none) (value : V) :
    (store.push key value).Arranged (store.slots.size :: order) ∧
      (store.push key value).pairsAt (store.slots.size :: order) =
        (key, value) :: store.pairsAt order := by
  have fresh : store.slots.size ∉ order := by
    rw [arranged.mem_iff]
    exact Nat.lt_irrefl _
  have same : Relinked (store.append key value) (store.push key value) := relinked_attach _
  have links : (store.append key value).olderOf = store.olderOf ∧
      (store.append key value).newerOf = store.newerOf :=
    links_push _ ⟨rfl, rfl⟩ _ rfl ⟨rfl, rfl⟩
  have unlinked : (store.append key value).Linked order := by
    rw [Linked, links.1, links.2]
    exact arranged.linked
  have size : (store.append key value).slots.size = store.slots.size + 1 := by
    simp [append]
  have outside : store.pairAt? store.slots.size = none := by simp [pairAt?]
  have pairs : (store.push key value).pairsAt (store.slots.size :: order) =
      (key, value) :: store.pairsAt order := by
    have others : order.filterMap (store.append key value).pairAt? = store.pairsAt order := by
      apply List.filterMap_congr
      intro slot mem
      rw [pairAt?_append, if_neg (Nat.ne_of_lt (arranged.bounds slot mem))]
    have first : (store.append key value).pairAt? store.slots.size = some (key, value) := by
      rw [pairAt?_append, if_pos rfl]
    rw [pairsAt, same.pairs, List.filterMap_cons_some first, others]
  refine ⟨⟨?_, ?_, ?_, ?_⟩, pairs⟩
  · rw [same.size, size, List.range_succ]
    exact (arranged.perm.cons _).trans (List.perm_append_singleton _ _).symm
  · apply linked_attach unlinked arranged.nodup fresh
    · omega
    · intro slot mem
      have bound := arranged.bounds slot mem
      omega
  · intro other place
    rw [same.index, same.pairs, pairAt?_append]
    rw [show (store.append key value).index = store.index.insert key store.slots.size from rfl,
      Std.HashMap.getElem?_insert]
    by_cases isKey : key = other
    · subst isKey
      have absent : ∀ value, store.pairAt? place ≠ some (key, value) := by
        intro value found
        have indexed := (arranged.indexed key place).mpr ⟨value, found⟩
        rw [unindexed] at indexed
        cases indexed
      by_cases isNew : place = store.slots.size
      · simp [isNew]
      · simp [isNew, Ne.symm isNew, absent]
    · by_cases isNew : place = store.slots.size
      · subst isNew
        simp [isKey, arranged.indexed, outside]
      · simp [isKey, isNew, arranged.indexed]
  · rw [same.used, pairs, Pairs.total_cons, ← arranged.used, Nat.add_comm]
    rfl

/-- A store with another value in a slot. -/
def overwrite (store : Store V) (place : Nat) (slot : Slot V) (value : V) : Store V :=
  { store with
    slots := store.slots.setIfInBounds place { slot with value := value }
    used := store.used - HasSize.size slot.value + HasSize.size value }

theorem links_overwrite {slot : Slot V} (found : store.slots[place]? = some slot) (value : V) :
    (store.overwrite place slot value).olderOf = store.olderOf ∧
      (store.overwrite place slot value).newerOf = store.newerOf := by
  have bound : place < store.slots.size := (Array.getElem?_eq_some_iff.mp found).1
  constructor
  · funext asked
    cases asked with
    | none => rfl
    | some asked =>
        simp only [overwrite, olderOf, Array.getElem?_setIfInBounds]
        split
        · rename_i isPlace
          subst isPlace
          rw [found]
          rfl
        · rfl
  · funext asked
    cases asked with
    | none => rfl
    | some asked =>
        simp only [overwrite, newerOf, Array.getElem?_setIfInBounds]
        split
        · rename_i isPlace
          subst isPlace
          rw [found]
          rfl
        · rfl

theorem pairAt?_overwrite {slot : Slot V} (found : store.slots[place]? = some slot) (value : V)
    (asked : Nat) :
    (store.overwrite place slot value).pairAt? asked =
      if asked = place then some (slot.key, value) else store.pairAt? asked := by
  have bound : place < store.slots.size := (Array.getElem?_eq_some_iff.mp found).1
  simp only [overwrite, pairAt?, Array.getElem?_setIfInBounds]
  by_cases isPlace : asked = place
  · subst isPlace
    simp [bound]
  · simp [isPlace, Ne.symm isPlace]

/-- Writing over a value moves the pair to the front. -/
theorem Arranged.replace {front back : List Nat} {slot : Slot V}
    (arranged : store.Arranged (front ++ place :: back))
    (found : store.slots[place]? = some slot) (value : V) :
    (store.replace place slot value).Arranged (place :: (front ++ back)) ∧
      (store.replace place slot value).pairsAt (place :: (front ++ back)) =
        (slot.key, value) :: store.pairsAt (front ++ back) := by
  have same : Relinked (store.overwrite place slot value) (store.replace place slot value) :=
    relinked_promote _
  obtain ⟨olderSame, newerSame⟩ := links_overwrite found value
  have linked : (store.overwrite place slot value).Linked (front ++ place :: back) := by
    rw [Linked, olderSame, newerSame]
    exact arranged.linked
  have size : (store.overwrite place slot value).slots.size = store.slots.size := by
    simp [overwrite]
  have free : place ∉ front ++ back :=
    (List.nodup_cons.mp (List.nodup_middle.mp arranged.nodup)).1
  have pairs : (store.replace place slot value).pairsAt (place :: (front ++ back)) =
      (slot.key, value) :: store.pairsAt (front ++ back) := by
    have others : (front ++ back).filterMap (store.overwrite place slot value).pairAt? =
        store.pairsAt (front ++ back) := by
      apply List.filterMap_congr
      intro other mem
      rw [pairAt?_overwrite found, if_neg]
      rintro rfl
      exact free mem
    have first : (store.overwrite place slot value).pairAt? place = some (slot.key, value) := by
      rw [pairAt?_overwrite found, if_pos rfl]
    rw [pairsAt, same.pairs, List.filterMap_cons_some first, others]
  refine ⟨⟨?_, ?_, ?_, ?_⟩, pairs⟩
  · rw [same.size, size]
    exact List.perm_middle.symm.trans arranged.perm
  · apply linked_promote linked arranged.nodup
    rw [size]
    exact arranged.bounds
  · intro key other
    rw [same.index, same.pairs, pairAt?_overwrite found]
    rw [show (store.overwrite place slot value).index = store.index from rfl, arranged.indexed]
    by_cases isPlace : other = place
    · subst isPlace
      simp [pairAt?, found]
    · simp [isPlace]
  · have old := arranged.used
    rw [pairsAt_append, pairsAt_cons found, Pairs.total_append, Pairs.total_cons] at old
    rw [same.used, pairs, Pairs.total_cons, pairsAt_append, Pairs.total_append]
    simp only [overwrite, cost] at old ⊢
    omega

/-- A write without its evictions. -/
def write (store : Store V) (key : String) (value : V) : Store V :=
  match store.index[key]? with
  | none => store.push key value
  | some place =>
      match store.slots[place]? with
      | none => store.push key value
      | some slot => store.replace place slot value

/-- A write puts the pair in front in place of the old one of its key. -/
theorem WellFormed.write (wellFormed : store.WellFormed) (key : String) (value : V) :
    (store.write key value).WellFormed ∧
      (store.write key value).entries = (key, value) :: Pairs.without store.entries key ∧
      (store.write key value).budget = store.budget := by
  obtain ⟨order, arranged⟩ := wellFormed
  cases indexed : store.index[key]? with
  | none =>
      have written : store.write key value = store.push key value := by
        simp [Store.write, indexed]
      obtain ⟨pushed, pairs⟩ := arranged.push indexed value
      have same : Relinked (store.append key value) (store.push key value) := relinked_attach _
      rw [written]
      refine ⟨⟨_, pushed⟩, ?_, same.budget⟩
      rw [pushed.entries_eq, pairs, arranged.entries_eq, Pairs.without_absent]
      rw [← arranged.entries_eq]
      exact arranged.ne_of_unindexed indexed
  | some place =>
      obtain ⟨front, back, slot, rfl, found, rfl, entriesEq, others⟩ := arranged.split indexed
      have written : store.write slot.key value = store.replace place slot value := by
        simp [Store.write, indexed, found]
      obtain ⟨replaced, pairs⟩ := arranged.replace found value
      have same : Relinked (store.overwrite place slot value) (store.replace place slot value) :=
        relinked_promote _
      rw [written]
      refine ⟨⟨_, replaced⟩, ?_, same.budget⟩
      rw [replaced.entries_eq, pairs, entriesEq, Pairs.without_split others, pairsAt_append]

/-! ## Removing the oldest pair -/

/-- The oldest slot ends the order. -/
theorem Arranged.oldest_eq (arranged : store.Arranged order) :
    store.oldest = order.getLast? := by
  rcases List.eq_nil_or_concat' order with rfl | ⟨rest, place, rfl⟩
  · exact (List.isChain_pair.mp arranged.linked).2
  · have chained := arranged.linked
    rw [Linked, Chained, circuit] at chained
    rw [List.map_append, List.cons_append, List.append_assoc] at chained
    have ends := (List.isChain_cons_append_cons_cons.mp chained).2.1
    rw [List.getLast?_concat]
    exact ends.2

/-- A store without the pair in a slot. -/
def drop (store : Store V) (place : Nat) (slot : Slot V) : Store V :=
  let vacated := (store.detach place).vacate place
  { vacated with
    index := vacated.index.erase slot.key
    used := vacated.used - cost slot.key slot.value }

/-- Where the pairs of a store lie once a slot is dropped. -/
theorem pairAt?_drop {last : Nat} {slot : Slot V} (size : store.slots.size = last + 1)
    (bound : place ≤ last) (asked : Nat) :
    (store.drop place slot).pairAt? asked =
      if asked < last then store.pairAt? (if asked = place then last else asked) else none := by
  have same : Relinked store (store.detach place) := relinked_detach place
  have vacated := pairAt?_vacate (same.size.trans size) bound asked
  rw [same.pairs] at vacated
  exact vacated

/-- Where the index of a store leads once a slot is dropped. -/
theorem Arranged.index_drop {last : Nat} {slot : Slot V} (arranged : store.Arranged order)
    (size : store.slots.size = last + 1) (bound : place ≤ last)
    (found : store.slots[place]? = some slot) (key : String) :
    (store.drop place slot).index[key]? =
      if slot.key = key then none else (store.index[key]?).map (resettled last place) := by
  have same : Relinked store (store.detach place) := relinked_detach place
  obtain ⟨lastSlot, lastEq⟩ : ∃ lastSlot, (store.detach place).slots[last]? = some lastSlot :=
    ⟨_, Array.getElem?_eq_getElem (by rw [same.size]; omega)⟩
  have lastIndexed : store.index[lastSlot.key]? = some last := by
    rw [arranged.indexed]
    refine ⟨lastSlot.value, ?_⟩
    rw [← same.pairs, pairAt?, lastEq]
    rfl
  have placeIndexed : store.index[slot.key]? = some place := by
    rw [arranged.indexed]
    exact ⟨slot.value, by rw [pairAt?, found]; rfl⟩
  have index : (store.drop place slot).index =
      (if place < last then store.index.insert lastSlot.key place else store.index).erase
        slot.key := by
    have vacated := index_vacate (same.size.trans size) lastEq bound
    rw [same.index] at vacated
    rw [← vacated]
    rfl
  rw [index, Std.HashMap.getElem?_erase]
  by_cases dropped : slot.key = key
  · simp [dropped]
  · rw [if_neg (by simpa using dropped), if_neg dropped]
    -- A key that does not lie in the last slot stays where it is.
    have kept : store.index[key]? ≠ some last →
        store.index[key]? = (store.index[key]?).map (resettled last place) := by
      intro elsewhere
      cases indexed : store.index[key]? with
      | none => rfl
      | some other =>
          rw [indexed] at elsewhere
          rw [Option.map_some, resettled, if_neg (by simpa using elsewhere)]
    split
    · rw [Std.HashMap.getElem?_insert]
      by_cases moved : lastSlot.key = key
      · subst moved
        simp [lastIndexed, resettled]
      · rw [if_neg (by simpa using moved)]
        exact kept fun indexed => moved (arranged.key_unique lastIndexed indexed)
    · rename_i notBefore
      obtain rfl : place = last := by omega
      exact kept fun indexed => dropped (arranged.key_unique placeIndexed indexed)

/-- The places of a resettled order are those before the last one. -/
theorem perm_map_resettled {last : Nat} {rest : List Nat}
    (perm : (rest ++ [place]).Perm (List.range (last + 1))) :
    (rest.map (resettled last place)).Perm (List.range last) := by
  have nodup : (rest ++ [place]).Nodup := perm.nodup_iff.mpr List.nodup_range
  have mem : ∀ slot, slot ∈ rest ∨ slot = place ↔ slot < last + 1 := by
    intro slot
    rw [← List.mem_range, ← perm.mem_iff]
    simp
  have restNodup : rest.Nodup := (List.nodup_append.mp nodup).1
  have free : place ∉ rest := fun placeMem =>
    (List.nodup_append.mp nodup).2.2 place placeMem place (by simp) rfl
  have bound := (mem place).mp (.inr rfl)
  rw [List.perm_ext_iff_of_nodup _ List.nodup_range]
  · intro asked
    rw [List.mem_map, List.mem_range]
    constructor
    · rintro ⟨other, otherMem, rfl⟩
      have upper := (mem other).mp (.inl otherMem)
      have different : other ≠ place := by
        rintro rfl
        exact free otherMem
      unfold resettled
      split <;> omega
    · intro upper
      by_cases isPlace : asked = place
      · refine ⟨last, ((mem last).mpr (Nat.lt_succ_self _)).resolve_right ?_, ?_⟩
        · omega
        · rw [resettled, if_pos rfl, isPlace]
      · refine ⟨asked, ((mem asked).mpr (by omega)).resolve_right isPlace, ?_⟩
        rw [resettled, if_neg (Nat.ne_of_lt upper)]
  · apply List.Nodup.map_on _ restNodup
    intro left leftMem right rightMem same
    unfold resettled at same
    split at same <;> split at same
    · omega
    · exact absurd (same ▸ rightMem) free
    · exact absurd (same ▸ leftMem) free
    · exact same

/-- The index of a store without a slot knows the slots of the other keys. -/
theorem Arranged.indexed_drop {last : Nat} {slot : Slot V} (arranged : store.Arranged order)
    (size : store.slots.size = last + 1) (bound : place ≤ last)
    (found : store.slots[place]? = some slot) (key : String) (asked : Nat) :
    (store.drop place slot).index[key]? = some asked ↔
      ∃ value, (store.drop place slot).pairAt? asked = some (key, value) := by
  rw [arranged.index_drop size bound found, pairAt?_drop size bound]
  have placeKey : store.index[slot.key]? = some place := by
    rw [arranged.indexed]
    exact ⟨slot.value, by rw [pairAt?, found]; rfl⟩
  by_cases isKey : slot.key = key
  · subst isKey
    rw [if_pos rfl]
    constructor
    · rintro ⟨⟩
    · rintro ⟨value, foundPair⟩
      exfalso
      by_cases upper : asked < last
      · rw [if_pos upper] at foundPair
        have indexed := (arranged.indexed slot.key _).mpr ⟨value, foundPair⟩
        rw [placeKey, Option.some.injEq] at indexed
        split at indexed <;> omega
      · rw [if_neg upper] at foundPair
        cases foundPair
  · rw [if_neg isKey, Option.map_eq_some_iff]
    constructor
    · rintro ⟨other, indexed, rfl⟩
      have otherPlace : other ≠ place := by
        rintro rfl
        exact isKey (arranged.key_unique placeKey indexed)
      obtain ⟨value, foundPair⟩ := (arranged.indexed key other).mp indexed
      have otherBound : other < store.slots.size := by
        by_contra outside
        simp [pairAt?, Array.getElem?_eq_none_iff.mpr (Nat.le_of_not_lt outside)] at foundPair
      refine ⟨value, ?_⟩
      by_cases isLast : other = last
      · subst isLast
        have before : place < other := by omega
        simp only [resettled, if_true, if_pos before]
        exact foundPair
      · have upper : other < last := by omega
        simp only [resettled, if_neg isLast, if_pos upper, if_neg otherPlace]
        exact foundPair
    · rintro ⟨value, foundPair⟩
      by_cases upper : asked < last
      · rw [if_pos upper] at foundPair
        refine ⟨_, (arranged.indexed key _).mpr ⟨value, foundPair⟩, ?_⟩
        by_cases isPlace : asked = place
        · simp [resettled, isPlace]
        · rw [if_neg isPlace, resettled, if_neg (Nat.ne_of_lt upper)]
      · rw [if_neg upper] at foundPair
        cases foundPair

/-- Dropping the oldest slot leaves the pairs of the others in their order. -/
theorem Arranged.drop {last : Nat} {rest : List Nat} {slot : Slot V}
    (arranged : store.Arranged (rest ++ [place])) (found : store.slots[place]? = some slot)
    (size : store.slots.size = last + 1) :
    (store.drop place slot).Arranged (rest.map (resettled last place)) ∧
      (store.drop place slot).pairsAt (rest.map (resettled last place)) = store.pairsAt rest := by
  have same : Relinked store (store.detach place) := relinked_detach place
  have detachedSize : (store.detach place).slots.size = last + 1 := same.size.trans size
  have restNodup : rest.Nodup := (List.nodup_append.mp arranged.nodup).1
  have free : place ∉ rest := fun mem =>
    (List.nodup_append.mp arranged.nodup).2.2 place mem place (by simp) rfl
  have bound : place ≤ last := by
    have upper := arranged.bounds place (by simp)
    omega
  have bounds : ∀ other ∈ rest, other < last + 1 := fun other mem =>
    size ▸ arranged.bounds other (by simp [mem])
  have others : ∀ other, other < last + 1 → other ≠ place → other ∈ rest := by
    intro other upper different
    have mem := arranged.mem_iff.mpr (size.symm ▸ upper : other < store.slots.size)
    simpa [different] using mem
  have perm : (rest.map (resettled last place)).Perm (List.range last) :=
    perm_map_resettled (size ▸ arranged.perm)
  have linked : (store.detach place).Linked rest := by
    have detached := linked_detach arranged.linked arranged.nodup arranged.bounds
    simpa using detached
  have pairs : (store.drop place slot).pairsAt (rest.map (resettled last place)) =
      store.pairsAt rest := by
    rw [pairsAt, List.filterMap_map]
    apply List.filterMap_congr
    intro other mem
    have below : resettled last place other < last := by
      rw [← List.mem_range, ← perm.mem_iff]
      exact List.mem_map_of_mem mem
    have different : other ≠ place := by
      rintro rfl
      exact free mem
    rw [Function.comp_apply, pairAt?_drop size bound, if_pos below]
    by_cases isLast : other = last
    · simp [resettled, isLast]
    · simp [resettled, isLast, different]
  obtain ⟨droppedSize, droppedUsed, _⟩ := size_vacate detachedSize bound
  refine ⟨⟨?_, ?_, arranged.indexed_drop size bound found, ?_⟩, pairs⟩
  · rw [show (store.drop place slot).slots.size = last from droppedSize]
    exact perm
  · exact linked_vacate linked restNodup detachedSize free others bounds bound
  · have total := arranged.used
    rw [pairsAt_append, Pairs.total_append, pairsAt_cons found] at total
    have account : (store.drop place slot).used = store.used - cost slot.key slot.value :=
      congrArg (· - cost slot.key slot.value) (droppedUsed.trans same.used)
    rw [account, pairs, total]
    simp

/-- Removing the oldest pair removes the last entry. -/
theorem WellFormed.popOldest?_eq (wellFormed : store.WellFormed) :
    Pairs.popOldest? store.entries =
        store.popOldest?.map (fun popped => (popped.1, popped.2.entries)) ∧
      ∀ pair next, store.popOldest? = some (pair, next) →
        next.WellFormed ∧ next.budget = store.budget := by
  obtain ⟨order, arranged⟩ := wellFormed
  rcases List.eq_nil_or_concat' order with rfl | ⟨rest, place, rfl⟩
  · have noOldest : store.oldest = none := arranged.oldest_eq
    have missing : store.popOldest? = none := by simp [Store.popOldest?, noOldest]
    rw [missing, arranged.entries_eq]
    exact ⟨rfl, fun _ _ popped => nomatch popped⟩
  · have bound : place < store.slots.size := arranged.bounds place (by simp)
    obtain ⟨slot, found⟩ : ∃ slot, store.slots[place]? = some slot :=
      ⟨_, Array.getElem?_eq_getElem bound⟩
    obtain ⟨last, size⟩ : ∃ last, store.slots.size = last + 1 :=
      ⟨store.slots.size - 1, by omega⟩
    have oldest : store.oldest = some place := by
      rw [arranged.oldest_eq, List.getLast?_concat]
    have popped : store.popOldest? = some ((slot.key, slot.value), store.drop place slot) := by
      rw [Store.popOldest?, oldest, Option.bind_eq_bind, Option.bind_some, found]
      rfl
    obtain ⟨dropped, pairs⟩ := arranged.drop found size
    constructor
    · rw [popped, Option.map_some, dropped.entries_eq, pairs, arranged.entries_eq,
        pairsAt_append, pairsAt_cons found]
      simp [Pairs.popOldest?]
    · intro pair next poppedAs
      rw [popped] at poppedAs
      cases poppedAs
      have same : Relinked store (store.detach place) := relinked_detach place
      have kept := (size_vacate (same.size.trans size) (by omega : place ≤ last)).2.2
      exact ⟨⟨_, dropped⟩, kept.trans same.budget⟩

/-- What a store over its budget has too much is its last pair. -/
theorem WellFormed.pop_of_isOver (wellFormed : store.WellFormed) (isOver : store.isOver) :
    ∃ last next, store.popOldest? = some (last, next) ∧ next.WellFormed ∧
      next.budget = store.budget ∧ store.entries = next.entries ++ [last] ∧
      Pairs.fitting store.entries store.budget = Pairs.fitting next.entries store.budget ∧
      (Pairs.fitting next.entries store.budget).length ≤ next.entries.length := by
  obtain ⟨order, arranged⟩ := wellFormed
  have exceeds : store.budget ≠ 0 ∧ store.budget < Pairs.total store.entries := by
    rw [← arranged.used_eq]
    simpa [Store.isOver] using isOver
  obtain ⟨popEq, popKeeps⟩ := WellFormed.popOldest?_eq ⟨order, arranged⟩
  cases popped : store.popOldest? with
  | none =>
      -- Nothing to pop means no entries, which cannot exceed the budget.
      rw [popped, Option.map_none, Pairs.popOldest?, Option.map_eq_none_iff,
        List.getLast?_eq_none_iff] at popEq
      rw [popEq] at exceeds
      simp at exceeds
  | some result =>
      obtain ⟨pair, next⟩ := result
      obtain ⟨nextFormed, nextBudget⟩ := popKeeps pair next popped
      rw [popped, Option.map_some, Pairs.popOldest?, Option.map_eq_some_iff] at popEq
      obtain ⟨last, lastEq, pairEq⟩ := popEq
      obtain ⟨rest, entriesEq⟩ := List.getLast?_eq_some_iff.mp lastEq
      have lastIs : last = pair := congrArg Prod.fst pairEq
      have restIs : store.entries.dropLast = next.entries := congrArg Prod.snd pairEq
      have fits := Pairs.fitting_eq_dropLast exceeds.1 exceeds.2
      rw [restIs] at fits
      rw [entriesEq, List.dropLast_concat] at restIs
      subst lastIs restIs
      exact ⟨last, next, rfl, nextFormed, nextBudget, entriesEq, fits,
        (Pairs.fitting_longest next.entries exceeds.1).1.length_le⟩

/-- Evicting while the budget is exceeded keeps the longest prefix that fits, and
lists the rest from the oldest pair on. -/
theorem WellFormed.evict {steps : Nat} (wellFormed : store.WellFormed)
    (enough : store.entries.length ≤ steps) :
    (store.evict steps).1.WellFormed ∧ (store.evict steps).1.budget = store.budget ∧
      (store.evict steps).1.entries = Pairs.fitting store.entries store.budget ∧
      (store.evict steps).2 =
        (store.entries.drop (Pairs.fitting store.entries store.budget).length).reverse := by
  induction steps generalizing store with
  | zero =>
      have empty : store.entries = [] := List.eq_nil_of_length_eq_zero (Nat.le_zero.mp enough)
      have fits : Pairs.fitting store.entries store.budget = store.entries :=
        Pairs.fitting_eq_self (by simp [empty])
      rw [fits]
      exact ⟨wellFormed, rfl, rfl, by simp [Store.evict]⟩
  | succ steps inductionHypothesis =>
      by_cases isOver : store.isOver
      · obtain ⟨last, next, popped, nextFormed, nextBudget, entriesEq, fits, keptLength⟩ :=
          wellFormed.pop_of_isOver isOver
        have shorter : next.entries.length ≤ steps := by
          rw [entriesEq, List.length_append, List.length_singleton] at enough
          omega
        obtain ⟨evictedFormed, evictedBudget, kept, reported⟩ :=
          inductionHypothesis nextFormed shorter
        rw [Store.evict, if_pos isOver, popped]
        refine ⟨evictedFormed, evictedBudget.trans nextBudget, ?_, ?_⟩
        · rw [fits, ← nextBudget]
          exact kept
        · rw [fits, entriesEq, List.drop_append_of_le_length keptLength, List.reverse_append]
          rw [nextBudget] at reported
          exact congrArg (last :: ·) reported
      · obtain ⟨order, arranged⟩ := wellFormed
        have fits : Pairs.fitting store.entries store.budget = store.entries := by
          apply Pairs.fitting_eq_self
          rw [← arranged.used_eq]
          by_cases unlimited : store.budget = 0
          · exact .inl unlimited
          · right
            simpa [Store.isOver, unlimited] using isOver
        rw [Store.evict, if_neg isOver, fits]
        exact ⟨⟨order, arranged⟩, rfl, rfl, by simp⟩

/-- Writing puts a pair in front and keeps what then fits. -/
theorem WellFormed.put_eq (wellFormed : store.WellFormed) (key : String) (value : V) :
    Pairs.put store.entries store.budget key value =
        ((store.put key value).1.entries, (store.put key value).2) ∧
      (store.put key value).1.WellFormed ∧ (store.put key value).1.budget = store.budget := by
  obtain ⟨writtenFormed, writtenEntries, writtenBudget⟩ := wellFormed.write key value
  have enough : (store.write key value).entries.length ≤ (store.write key value).size := by
    obtain ⟨order, arranged⟩ := writtenFormed
    exact Nat.le_of_eq arranged.length_entries
  obtain ⟨formed, budget, kept, reported⟩ := writtenFormed.evict enough
  rw [writtenEntries, writtenBudget] at kept reported
  exact ⟨Prod.ext kept.symm reported.symm, formed, budget.trans writtenBudget⟩

end WellFormed

end Store

end RingCache.Recency
