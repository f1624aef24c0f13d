import Mathlib.Data.List.Chain
import Mathlib.Data.List.Nodup
import Mathlib.Data.Option.Basic
import RingCache.Recency

/-!
# Links of a store

A place is a slot, or the gap beyond both ends of the recency list. `olderOf`
and `newerOf` read the two links of a place; for the gap these are the newest
and the oldest slot. `Linked` says that the links run through an order of slots,
from the gap back to the gap, and that the two directions agree.

The link operations of a store change these two functions at one place each. So
`linked_detach`, `linked_attach` and `linked_vacate` are facts about chains whose
links change at a few places (`Chained.unlink`, `Chained.link`,
`Chained.rename`).
-/

namespace RingCache.Recency

/-! ## Chains -/

section Chains

variable {α : Type} {older newer older' newer' : α → α}

/-- Two places are neighbours, seen from either side. -/
def Joined (older newer : α → α) (left right : α) : Prop :=
  older left = right ∧ newer right = left

/-- Consecutive places of a list are neighbours. -/
def Chained (older newer : α → α) (places : List α) : Prop :=
  places.IsChain (Joined older newer)

/-- Neighbours stay neighbours when the links between them stay. -/
theorem Joined.congr {left right : α} (joined : Joined older newer left right)
    (sameOlder : older' left = older left) (sameNewer : newer' right = newer right) :
    Joined older' newer' left right :=
  ⟨sameOlder.trans joined.1, sameNewer.trans joined.2⟩

/-- A place between two others can be taken out: they become neighbours, and
nothing else changes. -/
theorem Chained.unlink {before after : List α} {first place last : α}
    (chained : Chained older newer (before ++ first :: place :: last :: after))
    (fresh : place ∉ before ++ first :: last :: after)
    (olderFirst : older' first = last) (newerLast : newer' last = first)
    (olderSame : ∀ other, other ≠ first → other ≠ place → older' other = older other)
    (newerSame : ∀ other, other ≠ last → other ≠ place → newer' other = newer other) :
    Chained older' newer' (before ++ first :: last :: after) := by
  simp only [Chained, List.isChain_append_cons_cons, List.isChain_cons_cons] at chained ⊢
  obtain ⟨front, ⟨olderPlace, _⟩, ⟨_, newerPlace⟩, back⟩ := chained
  -- A link that changes leads to the place itself, which no other pair meets.
  have kept : ∀ left right, left ≠ place → right ≠ place →
      Joined older newer left right → Joined older' newer' left right := by
    intro left right leftOther rightOther joined
    apply joined.congr
    · apply olderSame left _ leftOther
      rintro rfl
      exact rightOther (joined.1.symm.trans olderPlace)
    · apply newerSame right _ rightOther
      rintro rfl
      exact leftOther (joined.2.symm.trans newerPlace)
  refine ⟨front.imp_of_mem_imp ?_, ⟨olderFirst, newerLast⟩, back.imp_of_mem_imp ?_⟩
  · intro left right leftMem rightMem
    apply kept
    · rintro rfl
      exact fresh (by simp at leftMem ⊢; tauto)
    · rintro rfl
      exact fresh (by simp at rightMem ⊢; tauto)
  · intro left right leftMem rightMem
    apply kept
    · rintro rfl
      exact fresh (by simp at leftMem ⊢; tauto)
    · rintro rfl
      exact fresh (by simp at rightMem ⊢; tauto)

/-- A new place can be put between the gap and the first place after it. -/
theorem Chained.link {after : List α} {gap place front : α}
    (chained : Chained older newer (gap :: front :: after))
    (nodup : (front :: after).Nodup) (fresh : place ∉ front :: after) (notGap : place ≠ gap)
    (olderGap : older' gap = place) (newerPlace : newer' place = gap)
    (olderPlace : older' place = front) (newerFront : newer' front = place)
    (olderSame : ∀ other, other ≠ gap → other ≠ place → older' other = older other)
    (newerSame : ∀ other, other ≠ front → other ≠ place → newer' other = newer other) :
    Chained older' newer' (gap :: place :: front :: after) := by
  simp only [Chained, List.isChain_cons_cons] at chained ⊢
  obtain ⟨⟨olderFront, _⟩, rest⟩ := chained
  refine ⟨⟨olderGap, newerPlace⟩, ⟨olderPlace, newerFront⟩, rest.imp_of_mem_tail_imp ?_⟩
  intro left right leftMem rightMem joined
  have rightFront : right ≠ front := by
    rintro rfl
    exact (List.nodup_cons.mp nodup).1 rightMem
  apply joined.congr
  · apply olderSame
    · -- The gap may also end the list, but there nothing follows it.
      rintro rfl
      exact rightFront (joined.1.symm.trans olderFront)
    · rintro rfl
      exact fresh leftMem
  · apply newerSame right rightFront
    rintro rfl
    exact fresh (List.mem_of_mem_tail rightMem)

/-- A place can give its links to a new one. -/
theorem Chained.rename {before after : List α} {first last old new : α}
    (chained : Chained older newer (before ++ first :: old :: last :: after))
    (oldFresh : old ∉ before ++ first :: last :: after)
    (newFresh : new ∉ before ++ first :: last :: after)
    (olderFirst : older' first = new) (newerNew : newer' new = newer old)
    (olderNew : older' new = older old) (newerLast : newer' last = new)
    (olderSame : ∀ other, other ≠ first → other ≠ old → other ≠ new →
      older' other = older other)
    (newerSame : ∀ other, other ≠ last → other ≠ old → other ≠ new →
      newer' other = newer other) :
    Chained older' newer' (before ++ first :: new :: last :: after) := by
  simp only [Chained, List.isChain_append_cons_cons, List.isChain_cons_cons] at chained ⊢
  obtain ⟨front, ⟨olderOld, newerOld⟩, ⟨olderLast, newerOld'⟩, back⟩ := chained
  have kept : ∀ left right, left ≠ old → right ≠ old → left ≠ new → right ≠ new →
      Joined older newer left right → Joined older' newer' left right := by
    intro left right leftOld rightOld leftNew rightNew joined
    apply joined.congr
    · apply olderSame left _ leftOld leftNew
      rintro rfl
      exact rightOld (joined.1.symm.trans olderOld)
    · apply newerSame right _ rightOld rightNew
      rintro rfl
      exact leftOld (joined.2.symm.trans newerOld')
  refine ⟨front.imp_of_mem_imp ?_, ⟨olderFirst, newerNew.trans newerOld⟩,
    ⟨olderNew.trans olderLast, newerLast⟩, back.imp_of_mem_imp ?_⟩
  · intro left right leftMem rightMem
    apply kept <;> rintro rfl
    · exact oldFresh (by simp at leftMem ⊢; tauto)
    · exact oldFresh (by simp at rightMem ⊢; tauto)
    · exact newFresh (by simp at leftMem ⊢; tauto)
    · exact newFresh (by simp at rightMem ⊢; tauto)
  · intro left right leftMem rightMem
    apply kept <;> rintro rfl
    · exact oldFresh (by simp at leftMem ⊢; tauto)
    · exact oldFresh (by simp at rightMem ⊢; tauto)
    · exact newFresh (by simp at leftMem ⊢; tauto)
    · exact newFresh (by simp at rightMem ⊢; tauto)

end Chains

/-! ## Orders of slots -/

/-- The places that an order of slots passes, from the gap back to the gap. -/
def circuit (order : List Nat) : List (Option Nat) :=
  none :: order.map some ++ [none]

theorem mem_circuit {order : List Nat} {place : Nat} :
    some place ∈ circuit order ↔ place ∈ order := by
  simp [circuit]

/-- A circuit falls apart at a slot into the places before and after it, and the
slot has a neighbour on either side. -/
theorem exists_circuit_around (front back : List Nat) :
    ∃ before first last after,
      (∀ place, circuit (front ++ place :: back) =
        before ++ first :: some place :: last :: after) ∧
      circuit (front ++ back) = before ++ first :: last :: after := by
  obtain ⟨before, first, beforeEq⟩ : ∃ before first,
      none :: front.map some = before ++ [first] :=
    ⟨_, _, (List.dropLast_append_getLast (List.cons_ne_nil none (front.map some))).symm⟩
  obtain ⟨last, after, afterEq⟩ : ∃ last after, back.map some ++ [none] = last :: after :=
    List.exists_cons_of_ne_nil (by simp)
  refine ⟨before, first, last, after, fun place => ?_, ?_⟩
  · calc circuit (front ++ place :: back)
        = (none :: front.map some) ++ some place :: (back.map some ++ [none]) := by
          simp [circuit]
      _ = before ++ first :: some place :: last :: after := by
          rw [beforeEq, afterEq]
          simp
  · calc circuit (front ++ back)
        = (none :: front.map some) ++ (back.map some ++ [none]) := by simp [circuit]
      _ = before ++ first :: last :: after := by
          rw [beforeEq, afterEq]
          simp

namespace Store

variable {V : Type} {store : Store V} {place : Nat}

/-! ## Links of a store -/

/-- The next older place. -/
def olderOf (store : Store V) : Option Nat → Option Nat
  | none => store.newest
  | some place => store.slots[place]?.bind Slot.older

/-- The next newer place. -/
def newerOf (store : Store V) : Option Nat → Option Nat
  | none => store.oldest
  | some place => store.slots[place]?.bind Slot.newer

/-- The links run through an order of slots. -/
def Linked (store : Store V) (order : List Nat) : Prop :=
  Chained store.olderOf store.newerOf (circuit order)

/-- A place that is the gap or one of the slots. -/
def Within (store : Store V) (place : Option Nat) : Prop :=
  ∀ slot, place = some slot → slot < store.slots.size

theorem within_of_mem_circuit {order : List Nat} {place : Option Nat}
    (bounds : ∀ slot ∈ order, slot < store.slots.size) (mem : place ∈ circuit order) :
    store.Within place := by
  rintro slot rfl
  exact bounds slot (mem_circuit.mp mem)

/-- The pair in a slot. -/
def pairAt? (store : Store V) (place : Nat) : Option (String × V) :=
  store.slots[place]?.map fun slot => (slot.key, slot.value)

/-- Two stores that differ in their links only. -/
structure Relinked (before after : Store V) : Prop where
  size : after.slots.size = before.slots.size
  pairs : after.pairAt? = before.pairAt?
  index : after.index = before.index
  used : after.used = before.used
  budget : after.budget = before.budget

theorem Relinked.refl (store : Store V) : Relinked store store :=
  ⟨rfl, rfl, rfl, rfl, rfl⟩

theorem Relinked.trans {first second third : Store V} (left : Relinked first second)
    (right : Relinked second third) : Relinked first third :=
  ⟨right.size.trans left.size, right.pairs.trans left.pairs, right.index.trans left.index,
    right.used.trans left.used, right.budget.trans left.budget⟩

/-- Setting an older link changes the older link of that place. -/
theorem olderOf_linkOlder {target : Option Nat} (within : store.Within target)
    (older asked : Option Nat) :
    (store.linkOlder target older).olderOf asked =
      if asked = target then older else store.olderOf asked := by
  cases target with
  | none => cases asked <;> simp [linkOlder, olderOf]
  | some target =>
      have bound := within target rfl
      cases asked with
      | none => simp [linkOlder, olderOf]
      | some asked =>
          by_cases same : asked = target
          · subst same
            simp [linkOlder, olderOf, bound, Array.getElem_modify]
          · simp [linkOlder, olderOf, Array.getElem?_modify, same, Ne.symm same]

/-- Setting a newer link changes the newer link of that place. -/
theorem newerOf_linkNewer {target : Option Nat} (within : store.Within target)
    (newer asked : Option Nat) :
    (store.linkNewer target newer).newerOf asked =
      if asked = target then newer else store.newerOf asked := by
  cases target with
  | none => cases asked <;> simp [linkNewer, newerOf]
  | some target =>
      have bound := within target rfl
      cases asked with
      | none => simp [linkNewer, newerOf]
      | some asked =>
          by_cases same : asked = target
          · subst same
            simp [linkNewer, newerOf, bound, Array.getElem_modify]
          · simp [linkNewer, newerOf, Array.getElem?_modify, same, Ne.symm same]

@[simp] theorem newerOf_linkOlder (target older : Option Nat) :
    (store.linkOlder target older).newerOf = store.newerOf := by
  funext asked
  cases target with
  | none => cases asked <;> rfl
  | some target =>
      cases asked with
      | none => rfl
      | some asked =>
          simp only [linkOlder, newerOf, Array.getElem?_modify]
          split <;> cases store.slots[asked]? <;> rfl

@[simp] theorem olderOf_linkNewer (target newer : Option Nat) :
    (store.linkNewer target newer).olderOf = store.olderOf := by
  funext asked
  cases target with
  | none => cases asked <;> rfl
  | some target =>
      cases asked with
      | none => rfl
      | some asked =>
          simp only [linkNewer, olderOf, Array.getElem?_modify]
          split <;> cases store.slots[asked]? <;> rfl

theorem relinked_linkOlder (target older : Option Nat) :
    Relinked store (store.linkOlder target older) := by
  cases target with
  | none => exact ⟨rfl, rfl, rfl, rfl, rfl⟩
  | some target =>
      refine ⟨by simp [linkOlder], ?_, rfl, rfl, rfl⟩
      funext asked
      simp only [linkOlder, pairAt?, Array.getElem?_modify]
      split <;> cases store.slots[asked]? <;> rfl

theorem relinked_linkNewer (target newer : Option Nat) :
    Relinked store (store.linkNewer target newer) := by
  cases target with
  | none => exact ⟨rfl, rfl, rfl, rfl, rfl⟩
  | some target =>
      refine ⟨by simp [linkNewer], ?_, rfl, rfl, rfl⟩
      funext asked
      simp only [linkNewer, pairAt?, Array.getElem?_modify]
      split <;> cases store.slots[asked]? <;> rfl

@[simp] theorem within_linkOlder (target older place : Option Nat) :
    (store.linkOlder target older).Within place ↔ store.Within place := by
  simp [Within, (relinked_linkOlder target older).size]

@[simp] theorem within_linkNewer (target newer place : Option Nat) :
    (store.linkNewer target newer).Within place ↔ store.Within place := by
  simp [Within, (relinked_linkNewer target newer).size]

/-! ## Taking out and putting in front -/

theorem relinked_detach (place : Nat) : Relinked store (store.detach place) := by
  unfold detach
  split
  · exact .refl store
  · exact (((relinked_linkOlder _ _).trans (relinked_linkNewer _ _)).trans
      (relinked_linkOlder _ _)).trans (relinked_linkNewer _ _)

theorem relinked_attach (place : Nat) : Relinked store (store.attach place) := by
  unfold attach
  exact (((relinked_linkNewer _ _).trans (relinked_linkOlder _ _)).trans
    (relinked_linkNewer _ _)).trans (relinked_linkOlder _ _)

theorem relinked_promote (place : Nat) : Relinked store (store.promote place) := by
  unfold promote
  split
  · exact .refl store
  · exact (relinked_detach place).trans (relinked_attach place)

/-- Taking out a slot, as a sequence of links. -/
theorem detach_eq (bound : place < store.slots.size) :
    store.detach place =
      (((store.linkOlder (store.newerOf (some place)) (store.olderOf (some place))).linkNewer
        (store.olderOf (some place)) (store.newerOf (some place))).linkOlder
          (some place) none).linkNewer (some place) none := by
  simp [detach, newerOf, olderOf, bound]

/-- The neighbours of a slot in a chain are its links. -/
theorem eq_links_of_chained {before after : List (Option Nat)} {first middle last : Option Nat}
    (chained : Chained store.olderOf store.newerOf (before ++ first :: middle :: last :: after)) :
    store.newerOf middle = first ∧ store.olderOf middle = last := by
  simp only [Chained, List.isChain_append_cons_cons, List.isChain_cons_cons] at chained
  obtain ⟨_, ⟨_, newer⟩, ⟨older, _⟩, _⟩ := chained
  exact ⟨newer, older⟩

/-- A slot that is taken out leaves the order of the others. -/
theorem linked_detach {front back : List Nat}
    (linked : store.Linked (front ++ place :: back)) (nodup : (front ++ place :: back).Nodup)
    (bounds : ∀ slot ∈ front ++ place :: back, slot < store.slots.size) :
    (store.detach place).Linked (front ++ back) := by
  obtain ⟨before, first, last, after, around, without⟩ := exists_circuit_around front back
  have chained : Chained store.olderOf store.newerOf
      (before ++ first :: some place :: last :: after) := around place ▸ linked
  have fresh : some place ∉ before ++ first :: last :: after := by
    rw [← without, mem_circuit]
    exact (List.nodup_cons.mp (List.nodup_middle.mp nodup)).1
  obtain ⟨newerEq, olderEq⟩ := eq_links_of_chained chained
  have withinFirst : store.Within first :=
    within_of_mem_circuit bounds (by rw [around place]; simp)
  have withinLast : store.Within last :=
    within_of_mem_circuit bounds (by rw [around place]; simp)
  have withinPlace : store.Within (some place) :=
    within_of_mem_circuit bounds (by rw [around place]; simp)
  have firstOther : first ≠ some place := by rintro rfl; simp at fresh
  have lastOther : last ≠ some place := by rintro rfl; simp at fresh
  rw [Linked, without, detach_eq (withinPlace place rfl), newerEq, olderEq]
  apply chained.unlink fresh
  · simp [olderOf_linkOlder, withinFirst, withinPlace, firstOther]
  · simp [newerOf_linkNewer, withinLast, withinPlace, lastOther]
  · intro other otherFirst otherPlace
    simp [olderOf_linkOlder, withinFirst, withinPlace, otherFirst, otherPlace]
  · intro other otherLast otherPlace
    simp [newerOf_linkNewer, withinLast, withinPlace, otherLast, otherPlace]

/-- A slot that is put in front comes before all others. -/
theorem linked_attach {order : List Nat} (linked : store.Linked order) (nodup : order.Nodup)
    (fresh : place ∉ order) (bound : place < store.slots.size)
    (bounds : ∀ slot ∈ order, slot < store.slots.size) :
    (store.attach place).Linked (place :: order) := by
  obtain ⟨front, after, rest⟩ : ∃ front after, order.map some ++ [none] = front :: after :=
    List.exists_cons_of_ne_nil (by simp)
  have chained : Chained store.olderOf store.newerOf (none :: front :: after) := by
    rw [← rest]
    exact linked
  have frontEq : store.newest = front := (List.isChain_cons_cons.mp chained).1.1
  have restNodup : (front :: after).Nodup := by
    rw [← rest]
    simpa [List.nodup_append, List.nodup_map_iff (Option.some_injective Nat)] using nodup
  have restFresh : some place ∉ front :: after := by
    rw [← rest]
    simpa using fresh
  have withinPlace : store.Within (some place) := by
    rintro slot ⟨⟩
    exact bound
  have withinGap : store.Within none := by
    rintro slot ⟨⟩
  have withinFront : store.Within front :=
    within_of_mem_circuit bounds (by simp [circuit, rest])
  have frontOther : front ≠ some place := by rintro rfl; simp at restFresh
  have circuitEq : circuit (place :: order) = none :: some place :: front :: after := by
    simp [circuit, rest]
  rw [Linked, circuitEq, attach, frontEq]
  apply chained.link restNodup restFresh (by simp)
  · simp [olderOf_linkOlder, withinGap]
  · simp [newerOf_linkNewer, withinPlace, withinFront, frontOther.symm]
  · simp [olderOf_linkOlder, withinPlace, withinGap]
  · simp [newerOf_linkNewer, withinFront]
  · intro other otherGap otherPlace
    simp [olderOf_linkOlder, withinPlace, withinGap, otherGap, otherPlace]
  · intro other otherFront otherPlace
    simp [newerOf_linkNewer, withinPlace, withinFront, otherFront, otherPlace]

/-- A slot that is promoted comes before all others. -/
theorem linked_promote {front back : List Nat}
    (linked : store.Linked (front ++ place :: back)) (nodup : (front ++ place :: back).Nodup)
    (bounds : ∀ slot ∈ front ++ place :: back, slot < store.slots.size) :
    (store.promote place).Linked (place :: (front ++ back)) := by
  have restNodup := List.nodup_cons.mp (List.nodup_middle.mp nodup)
  unfold promote
  split
  · rename_i isNewest
    cases front with
    | nil => exact linked
    | cons head front =>
        -- The newest slot is the head, and no slot occurs twice.
        have headEq : store.newest = some head := (List.isChain_cons_cons.mp linked).1.1
        rw [isNewest] at headEq
        cases headEq
        simp at restNodup
  · have same : Relinked store (store.detach place) := relinked_detach place
    apply linked_attach (linked_detach linked nodup bounds) restNodup.2 restNodup.1
    · rw [same.size]
      exact bounds place (by simp)
    · intro slot mem
      rw [same.size]
      apply bounds
      simp only [List.mem_append, List.mem_cons] at mem ⊢
      tauto

/-! ## Moving the last slot -/

/-- The slots once the last one has been copied to a place before it and
dropped from the end. -/
theorem getElem?_moveLast {slots : Array (Slot V)} {moved : Nat} {last : Slot V}
    (size : slots.size = moved + 1) (before : place < moved) (asked : Nat) :
    (slots.setIfInBounds place last).pop[asked]? =
      if asked = place then some last else if asked < moved then slots[asked]? else none := by
  rw [Array.getElem?_pop, Array.size_setIfInBounds, size, Nat.add_sub_cancel]
  rcases Nat.lt_or_ge asked moved with low | high
  · rw [if_pos low, Array.getElem?_setIfInBounds]
    by_cases same : asked = place
    · subst same
      simp [show asked < slots.size by omega]
    · simp [same, Ne.symm same, low]
  · rw [if_neg (by omega), if_neg (by omega), if_neg (by omega)]

/-- Freeing the last slot drops it. -/
theorem vacate_last (size : store.slots.size = place + 1) :
    store.vacate place = { store with slots := store.slots.pop } := by
  have dropped : ∀ last, (store.slots.setIfInBounds place last).pop = store.slots.pop := by
    intro last
    apply Array.ext_getElem?
    intro asked
    rw [Array.getElem?_pop, Array.getElem?_pop, Array.size_setIfInBounds,
      Array.getElem?_setIfInBounds]
    split
    · rw [if_neg (by omega)]
    · rfl
  unfold vacate
  split
  · rename_i empty
    simp [Array.back?, size] at empty
  · simp [dropped, size]

/-- The store once the last slot has been copied to a free place. -/
def moveLast (store : Store V) (place : Nat) (last : Slot V) : Store V :=
  { store with slots := (store.slots.setIfInBounds place last).pop }

/-- The store once the neighbours of the moved slot lead to its new place. -/
def reseat (store : Store V) (place : Nat) (last : Slot V) : Store V :=
  ((store.moveLast place last).linkOlder last.newer (some place)).linkNewer last.older (some place)

/-- Freeing a slot before the last one moves the last one there. -/
theorem vacate_eq {moved : Nat} {last : Slot V} (size : store.slots.size = moved + 1)
    (before : place < moved) (lastEq : store.slots[moved]? = some last) :
    store.vacate place =
      { store.reseat place last with
        index := (store.reseat place last).index.insert last.key place } := by
  have back : store.slots.back? = some last := by
    rw [Array.back?_eq_getElem?, size]
    exact lastEq
  have short : place < (store.moveLast place last).slots.size := by
    simp [moveLast, size, before]
  unfold vacate
  rw [back]
  exact if_pos short

theorem relinked_reseat (place : Nat) (last : Slot V) :
    Relinked (store.moveLast place last) (store.reseat place last) :=
  (relinked_linkOlder _ _).trans (relinked_linkNewer _ _)

/-- The links after the last slot has been moved, apart from those of its
neighbours. -/
theorem links_moveLast {moved : Nat} {last : Slot V} (size : store.slots.size = moved + 1)
    (before : place < moved) (lastEq : store.slots[moved]? = some last) (asked : Option Nat) :
    (store.moveLast place last).olderOf asked =
        (if asked = some place then store.olderOf (some moved)
        else if asked = some moved then none else store.olderOf asked) ∧
      (store.moveLast place last).newerOf asked =
        (if asked = some place then store.newerOf (some moved)
        else if asked = some moved then none else store.newerOf asked) := by
  cases asked with
  | none => exact ⟨rfl, rfl⟩
  | some asked =>
      simp only [moveLast, olderOf, newerOf, getElem?_moveLast size before, lastEq,
        Option.some.injEq, Option.bind_some]
      by_cases isPlace : asked = place
      · simp [isPlace]
      · by_cases isMoved : asked = moved
        · simp [isMoved, Nat.ne_of_gt before]
        · rcases Nat.lt_or_ge asked moved with low | high
          · simp [isPlace, isMoved, low]
          · have outside : store.slots[asked]? = none := by
              rw [Array.getElem?_eq_none_iff]
              omega
            simp [isPlace, isMoved, outside]

/-- The slot that is moved takes over the position of the last one. -/
theorem linked_vacate_moved {moved : Nat} {front back : List Nat}
    (linked : store.Linked (front ++ moved :: back)) (nodup : (front ++ moved :: back).Nodup)
    (size : store.slots.size = moved + 1) (before : place < moved)
    (bounds : ∀ slot ∈ front ++ moved :: back, slot < store.slots.size)
    (free : place ∉ front ++ moved :: back) :
    (store.vacate place).Linked (front ++ place :: back) := by
  obtain ⟨first, neighbour, next, after, around, without⟩ := exists_circuit_around front back
  have chained : Chained store.olderOf store.newerOf
      (first ++ neighbour :: some moved :: next :: after) := around moved ▸ linked
  have movedFresh : some moved ∉ first ++ neighbour :: next :: after := by
    rw [← without, mem_circuit]
    exact (List.nodup_cons.mp (List.nodup_middle.mp nodup)).1
  have placeFresh : some place ∉ first ++ neighbour :: next :: after := by
    rw [← without, mem_circuit]
    simp only [List.mem_append, List.mem_cons] at free ⊢
    tauto
  obtain ⟨last, lastEq⟩ : ∃ last, store.slots[moved]? = some last :=
    ⟨_, Array.getElem?_eq_getElem (by omega)⟩
  have newerEq : last.newer = neighbour := by
    have link := (eq_links_of_chained chained).1
    simpa [newerOf, lastEq] using link
  have olderEq : last.older = next := by
    have link := (eq_links_of_chained chained).2
    simpa [olderOf, lastEq] using link
  have links := links_moveLast size before lastEq
  have shrunk : (store.moveLast place last).slots.size = moved := by simp [moveLast, size]
  have within : ∀ other ∈ first ++ neighbour :: next :: after,
      (store.moveLast place last).Within other := by
    rintro other otherMem slot rfl
    have bound : slot < store.slots.size :=
      bounds slot (by rw [← without, mem_circuit] at otherMem; simp at otherMem ⊢; tauto)
    have notMoved : slot ≠ moved := by
      rintro rfl
      exact movedFresh otherMem
    omega
  have withinFirst := within neighbour (by simp)
  have withinLast := within next (by simp)
  have firstOther : neighbour ≠ some place := by rintro rfl; simp at placeFresh
  have lastOther : next ≠ some place := by rintro rfl; simp at placeFresh
  have relinked : (store.reseat place last).Linked (front ++ place :: back) := by
    rw [Linked, around place, reseat, newerEq, olderEq]
    apply chained.rename movedFresh placeFresh
    · simp [olderOf_linkOlder, withinFirst]
    · simp [newerOf_linkNewer, withinLast, lastOther.symm, links]
    · simp [olderOf_linkOlder, withinFirst, firstOther.symm, links]
    · simp [newerOf_linkNewer, withinLast]
    · intro other otherFirst otherMoved otherPlace
      simp [olderOf_linkOlder, withinFirst, links, otherFirst, otherMoved, otherPlace]
    · intro other otherLast otherMoved otherPlace
      simp [newerOf_linkNewer, withinLast, links, otherLast, otherMoved, otherPlace]
  rw [vacate_eq size before lastEq]
  exact relinked

/-- Freeing the last slot leaves the links of the others. -/
theorem linked_vacate_last {order : List Nat} (linked : store.Linked order)
    (size : store.slots.size = place + 1) (bounds : ∀ slot ∈ order, slot < place) :
    (store.vacate place).Linked order := by
  rw [vacate_last size]
  apply List.IsChain.imp_of_mem_imp _ linked
  intro left right leftMem rightMem joined
  have slotEq : ∀ slot, slot < place → store.slots.pop[slot]? = store.slots[slot]? := by
    intro slot below
    rw [Array.getElem?_pop, size, Nat.add_sub_cancel, if_pos below]
  apply joined.congr
  · cases left with
    | none => rfl
    | some slot => simp [olderOf, slotEq slot (bounds slot (mem_circuit.mp leftMem))]
  · cases right with
    | none => rfl
    | some slot => simp [newerOf, slotEq slot (bounds slot (mem_circuit.mp rightMem))]

/-- Where the pair of a slot lies once a place before the last one is filled with
the last one. -/
def resettled (last place slot : Nat) : Nat :=
  if slot = last then place else slot

theorem map_resettled_of_notMem {last place : Nat} {order : List Nat} (absent : last ∉ order) :
    order.map (resettled last place) = order := by
  have same : ∀ slot ∈ order, resettled last place slot = id slot := by
    intro slot mem
    rw [resettled, if_neg, id]
    rintro rfl
    exact absent mem
  rw [List.map_congr_left same, List.map_id]

/-- Freeing a slot resettles the order of the others. -/
theorem linked_vacate {last : Nat} {order : List Nat} (linked : store.Linked order)
    (nodup : order.Nodup) (size : store.slots.size = last + 1) (free : place ∉ order)
    (others : ∀ slot, slot < last + 1 → slot ≠ place → slot ∈ order)
    (bounds : ∀ slot ∈ order, slot < last + 1) (bound : place ≤ last) :
    (store.vacate place).Linked (order.map (resettled last place)) := by
  rcases Nat.lt_or_ge place last with before | isLast
  · obtain ⟨front, back, rfl⟩ := List.append_of_mem
      (others last (Nat.lt_succ_self _) (Nat.ne_of_gt before))
    have distinct := (List.nodup_cons.mp (List.nodup_middle.mp nodup)).1
    rw [List.mem_append, not_or] at distinct
    rw [List.map_append, List.map_cons, map_resettled_of_notMem distinct.1,
      map_resettled_of_notMem distinct.2, resettled, if_pos rfl]
    exact linked_vacate_moved linked nodup size before
      (fun slot mem => size ▸ bounds slot mem) free
  · obtain rfl : place = last := Nat.le_antisymm bound isLast
    have below : ∀ slot ∈ order, slot < place := by
      intro slot mem
      have different : slot ≠ place := by
        rintro rfl
        exact free mem
      have upper := bounds slot mem
      omega
    rw [map_resettled_of_notMem free]
    exact linked_vacate_last linked size below

/-- The pairs of a store once a slot is freed. -/
theorem pairAt?_vacate {last : Nat} (size : store.slots.size = last + 1) (bound : place ≤ last)
    (asked : Nat) :
    (store.vacate place).pairAt? asked =
      if asked < last then store.pairAt? (if asked = place then last else asked) else none := by
  obtain ⟨slot, slotEq⟩ : ∃ slot, store.slots[last]? = some slot :=
    ⟨_, Array.getElem?_eq_getElem (by omega)⟩
  rcases Nat.lt_or_ge place last with before | isLast
  · rw [vacate_eq size before slotEq]
    have same : (store.reseat place slot).pairAt? = (store.moveLast place slot).pairAt? :=
      (relinked_reseat place slot).pairs
    have moved : (store.moveLast place slot).pairAt? asked =
        if asked < last then store.pairAt? (if asked = place then last else asked) else none := by
      simp only [moveLast, pairAt?, getElem?_moveLast size before]
      by_cases isPlace : asked = place
      · subst isPlace
        simp [before, slotEq]
      · by_cases below : asked < last <;> simp [isPlace, below]
    exact (congrFun same asked).trans moved
  · obtain rfl : place = last := Nat.le_antisymm bound isLast
    rw [vacate_last size]
    simp only [pairAt?, Array.getElem?_pop, size, Nat.add_sub_cancel]
    by_cases below : asked < place
    · simp [below, Nat.ne_of_lt below]
    · simp [below]

/-- The index of a store once a slot is freed. -/
theorem index_vacate {last : Nat} {slot : Slot V} (size : store.slots.size = last + 1)
    (slotEq : store.slots[last]? = some slot) (bound : place ≤ last) :
    (store.vacate place).index =
      if place < last then store.index.insert slot.key place else store.index := by
  rcases Nat.lt_or_ge place last with before | isLast
  · have same : (store.reseat place slot).index = (store.moveLast place slot).index :=
      (relinked_reseat place slot).index
    rw [vacate_eq size before slotEq, if_pos before]
    exact congrArg (fun index => index.insert slot.key place) same
  · obtain rfl : place = last := Nat.le_antisymm bound isLast
    rw [vacate_last size, if_neg (Nat.lt_irrefl _)]

/-- What freeing a slot leaves alone. -/
theorem size_vacate {last : Nat} (size : store.slots.size = last + 1) (bound : place ≤ last) :
    (store.vacate place).slots.size = last ∧ (store.vacate place).used = store.used ∧
      (store.vacate place).budget = store.budget := by
  obtain ⟨slot, slotEq⟩ : ∃ slot, store.slots[last]? = some slot :=
    ⟨_, Array.getElem?_eq_getElem (by omega)⟩
  rcases Nat.lt_or_ge place last with before | isLast
  · have same : Relinked (store.moveLast place slot) (store.reseat place slot) :=
      relinked_reseat place slot
    rw [vacate_eq size before slotEq]
    exact ⟨same.size.trans (by simp [moveLast, size]), same.used, same.budget⟩
  · obtain rfl : place = last := Nat.le_antisymm bound isLast
    rw [vacate_last size]
    exact ⟨by simp [size], rfl, rfl⟩

end Store

end RingCache.Recency
