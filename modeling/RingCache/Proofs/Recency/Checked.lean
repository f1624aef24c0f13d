import RingCache.Proofs.Recency.Soundness

/-!
# Operations that check what they do

The operations of a store are total: a slot that is not there is passed over, a
subtraction stops at zero, and walks and evictions have a bound on their steps. The
operations here do the same in the same order without any of this. They have no result
where they would touch a slot that is not there, look for a key that the index does not
know, or take more from the account than is in it; and `Store.Walks` and `Checked.Evicts`
go on for as long as there is something to do.

On a store that comes out of an empty one the checked operations have exactly the results
of the others (`Store.checked_after`). So nothing is ever passed over, no subtraction stops
at zero, and no bound cuts anything off.
-/

namespace RingCache.Recency.Store

variable {V : Type} {store : Store V} {order : List Nat} {place : Nat}

instance decidableWithin (store : Store V) : (place : Option Nat) → Decidable (store.Within place)
  | none => .isTrue fun _ isSlot => nomatch isSlot
  | some slot => decidable_of_iff (slot < store.slots.size)
      ⟨fun bound _ same => Option.some.inj same ▸ bound, fun within => within slot rfl⟩

namespace Checked

/-! ## Checked operations -/

/-- Set an older link, if the place is there. -/
def linkOlder (store : Store V) (place older : Option Nat) : Option (Store V) :=
  if store.Within place then some (store.linkOlder place older) else none

/-- Set a newer link, if the place is there. -/
def linkNewer (store : Store V) (place newer : Option Nat) : Option (Store V) :=
  if store.Within place then some (store.linkNewer place newer) else none

/-- Take an amount out of the account, if there is as much. -/
def spend (used amount : Nat) : Option Nat :=
  if amount ≤ used then some (used - amount) else none

/-- Take a slot out of the links. -/
def detach (store : Store V) (place : Nat) : Option (Store V) := do
  let slot ← store.slots[place]?
  let store ← linkOlder store slot.newer slot.older
  let store ← linkNewer store slot.older slot.newer
  let store ← linkOlder store (some place) none
  linkNewer store (some place) none

/-- Link a slot that is out of the links as the newest one. -/
def attach (store : Store V) (place : Nat) : Option (Store V) := do
  let front := store.newest
  let store ← linkNewer store (some place) none
  let store ← linkOlder store (some place) front
  let store ← linkNewer store front (some place)
  linkOlder store none (some place)

/-- Make a slot the newest one. -/
def promote (store : Store V) (place : Nat) : Option (Store V) :=
  if store.newest = some place then some store
  else (detach store place).bind fun detached => attach detached place

/-- Free a slot that is out of the links; the last slot moves into it. -/
def vacate (store : Store V) (place : Nat) : Option (Store V) := do
  let last ← store.slots.back?
  let moved := store.moveLast place last
  if place < moved.slots.size then do
    let store ← linkOlder moved last.newer (some place)
    let store ← linkNewer store last.older (some place)
    if store.index.contains last.key then
      some { store with index := store.index.insert last.key place }
    else none
  else if place < store.slots.size then some moved else none

/-- The value of a key, which becomes the most recent. -/
def get (store : Store V) (key : String) : Option (Option (V × Store V)) :=
  match store.index[key]? with
  | none => some none
  | some place => do
      let promoted ← promote store place
      let slot ← promoted.slots[place]?
      return some (slot.value, promoted)

section Sized

variable [HasSize V]

/-- The least recent pair and the store without it. -/
def popOldest (store : Store V) : Option (Option ((String × V) × Store V)) :=
  match store.oldest with
  | none => some none
  | some place => do
      let slot ← store.slots[place]?
      let detached ← detach store place
      let vacated ← vacate detached place
      let used ← spend vacated.used (cost slot.key slot.value)
      return some ((slot.key, slot.value),
        { vacated with index := vacated.index.erase slot.key, used := used })

/-- Write a value to a key, without evictions. -/
def write (store : Store V) (key : String) (value : V) : Option (Store V) :=
  match store.index[key]? with
  | none => attach (store.append key value) store.slots.size
  | some place => do
      let slot ← store.slots[place]?
      let used ← spend store.used (HasSize.size slot.value)
      promote { store with
        slots := store.slots.setIfInBounds place { slot with value := value }
        used := used + HasSize.size value } place

/-- Evict pairs until the budget is kept. -/
inductive Evicts : Store V → Store V → List (String × V) → Prop where
  | done {store : Store V} (keeps : store.isOver = false) : Evicts store store []
  | evicts {store next last : Store V} {pair : String × V} {pairs : List (String × V)}
      (isOver : store.isOver = true) (popped : popOldest store = some (some (pair, next)))
      (goesOn : Evicts next last pairs) : Evicts store last (pair :: pairs)

/-- Perform an operation. -/
inductive Performs (store : Store V) :
    Operation V → Store V × Answer V × List (String × V) → Prop where
  | put {key : String} {value : V} {written last : Store V} {pairs : List (String × V)}
      (writes : write store key value = some written) (evicts : Evicts written last pairs) :
      Performs store (.put key value) (last, .written, pairs)
  | miss {key : String} (missing : get store key = some none) :
      Performs store (.get key) (store, .found none, [])
  | hit {key : String} {value : V} {next : Store V}
      (found : get store key = some (some (value, next))) :
      Performs store (.get key) (next, .found (some value), [])
  | contains {key : String} :
      Performs store (.contains key) (store, .resident (store.contains key), [])
  | popNothing (nothing : popOldest store = some none) :
      Performs store .popOldest (store, .popped none, [])
  | pop {pair : String × V} {next : Store V} (popped : popOldest store = some (some (pair, next))) :
      Performs store .popOldest (next, .popped (some pair), [pair])
  | list {order : List Nat} (walks : store.Walks store.newest order) :
      Performs store .list (store, .listed (store.pairsAt order), [])

/-! ### One result at most -/

theorem Evicts.unique {last other : Store V} {pairs others : List (String × V)}
    (evicts : Evicts store last pairs) (evictsOther : Evicts store other others) :
    last = other ∧ pairs = others := by
  induction evicts generalizing others with
  | done keeps =>
      cases evictsOther with
      | done => exact ⟨rfl, rfl⟩
      | evicts isOver =>
          rw [keeps] at isOver
          cases isOver
  | evicts isOver popped _ inductionHypothesis =>
      cases evictsOther with
      | done keeps =>
          rw [isOver] at keeps
          cases keeps
      | evicts _ poppedOther goesOn =>
          rw [popped] at poppedOther
          cases poppedOther
          obtain ⟨rfl, rfl⟩ := inductionHypothesis goesOn
          exact ⟨rfl, rfl⟩

theorem Performs.unique {operation : Operation V} {result other : Store V × Answer V × List (String × V)}
    (performs : Performs store operation result) (performsOther : Performs store operation other) :
    result = other := by
  cases performs with
  | put writes evicts =>
      cases performsOther with
      | put writesOther evictsOther =>
          rw [writes] at writesOther
          cases writesOther
          obtain ⟨rfl, rfl⟩ := evicts.unique evictsOther
          rfl
  | miss missing =>
      cases performsOther with
      | miss => rfl
      | hit found =>
          rw [missing] at found
          cases found
  | hit found =>
      cases performsOther with
      | miss missing =>
          rw [found] at missing
          cases missing
      | hit foundOther =>
          rw [found] at foundOther
          cases foundOther
          rfl
  | contains =>
      cases performsOther
      rfl
  | popNothing nothing =>
      cases performsOther with
      | popNothing => rfl
      | pop popped =>
          rw [nothing] at popped
          cases popped
  | pop popped =>
      cases performsOther with
      | popNothing nothing =>
          rw [popped] at nothing
          cases nothing
      | pop poppedOther =>
          rw [popped] at poppedOther
          cases poppedOther
          rfl
  | list walks =>
      cases performsOther with
      | list walksOther => rw [walks.unique walksOther]

end Sized

/-! ## Links -/

theorem linkOlder_eq {place : Option Nat} (within : store.Within place) (older : Option Nat) :
    linkOlder store place older = some (store.linkOlder place older) :=
  if_pos within

theorem linkNewer_eq {place : Option Nat} (within : store.Within place) (newer : Option Nat) :
    linkNewer store place newer = some (store.linkNewer place newer) :=
  if_pos within

theorem within_some (bound : place < store.slots.size) : store.Within (some place) :=
  fun _ same => Option.some.inj same ▸ bound

/-- A slot whose neighbours are there can be taken out. -/
theorem detach_eq_some (bound : place < store.slots.size)
    (withinNewer : store.Within (store.newerOf (some place)))
    (withinOlder : store.Within (store.olderOf (some place))) :
    detach store place = some (store.detach place) := by
  have found : store.slots[place]? = some store.slots[place] := Array.getElem?_eq_getElem bound
  have newer : store.newerOf (some place) = store.slots[place].newer := by
    rw [newerOf, found, Option.bind_some]
  have older : store.olderOf (some place) = store.slots[place].older := by
    rw [olderOf, found, Option.bind_some]
  have within := within_some bound
  rw [newer] at withinNewer
  rw [older] at withinOlder
  rw [Store.detach_eq bound, newer, older]
  simp [detach, found, linkOlder_eq, linkNewer_eq, within, withinNewer, withinOlder]

/-- A slot can be put in front of a newest one that is there. -/
theorem attach_eq_some (bound : place < store.slots.size)
    (withinFront : store.Within store.newest) :
    attach store place = some (store.attach place) := by
  have within := within_some bound
  have withinGap : store.Within none := fun _ isSlot => nomatch isSlot
  simp [attach, Store.attach, linkOlder_eq, linkNewer_eq, within, withinFront, withinGap]

/-- The newest slot is there when one has been taken out. -/
theorem within_newest_detach (bound : place < store.slots.size)
    (withinFront : store.Within store.newest)
    (withinNewer : store.Within (store.newerOf (some place)))
    (withinOlder : store.Within (store.olderOf (some place))) :
    (store.detach place).Within (store.detach place).newest := by
  have newest : (store.detach place).olderOf none =
      if none = store.newerOf (some place) then store.olderOf (some place) else store.newest := by
    rw [detach_eq bound]
    simp only [olderOf_linkNewer]
    rw [olderOf_linkOlder (by simpa using within_some bound), if_neg nofun, olderOf_linkNewer,
      olderOf_linkOlder withinNewer]
    rfl
  have sameSize : (store.detach place).slots.size = store.slots.size := (relinked_detach place).size
  change (store.detach place).Within ((store.detach place).olderOf none)
  rw [newest, Within, sameSize]
  split
  · exact withinOlder
  · exact withinFront

/-- A slot can be made the newest one. -/
theorem promote_eq_some (bound : place < store.slots.size)
    (withinFront : store.Within store.newest)
    (withinNewer : store.Within (store.newerOf (some place)))
    (withinOlder : store.Within (store.olderOf (some place))) :
    promote store place = some (store.promote place) := by
  have detachedBound : place < (store.detach place).slots.size :=
    bound.trans_eq (relinked_detach place).size.symm
  rw [promote, Store.promote]
  split
  · rfl
  · rw [detach_eq_some bound withinNewer withinOlder, Option.bind_some,
      attach_eq_some detachedBound (within_newest_detach bound withinFront withinNewer withinOlder)]

/-- A slot can be freed when the neighbours of the last one are there without it, and the
index knows its key. -/
theorem vacate_eq_some {last : Nat} {slot : Slot V} (size : store.slots.size = last + 1)
    (bound : place ≤ last) (lastEq : store.slots[last]? = some slot)
    (linksBound : place < last → ∀ other, slot.newer = some other ∨ slot.older = some other →
      other < last)
    (known : store.index.contains slot.key) : vacate store place = some (store.vacate place) := by
  have back : store.slots.back? = some slot := by
    rw [Array.back?_eq_getElem?, size]
    exact lastEq
  have shrunk : (store.moveLast place slot).slots.size = last := by simp [moveLast, size]
  rw [vacate, back, Option.bind_eq_bind, Option.bind_some]
  dsimp only
  rw [shrunk]
  split
  · rename_i before
    have withinNewer : (store.moveLast place slot).Within slot.newer := fun other isNewer =>
      (linksBound before other (.inl isNewer)).trans_eq shrunk.symm
    have withinOlder : (store.moveLast place slot).Within slot.older := fun other isOlder =>
      (linksBound before other (.inr isOlder)).trans_eq shrunk.symm
    have known' : (store.reseat place slot).index.contains slot.key := by
      rw [(relinked_reseat place slot).index]
      exact known
    rw [linkOlder_eq withinNewer, Option.bind_eq_bind, Option.bind_some,
      linkNewer_eq (by simpa using withinOlder), Option.bind_some,
      Store.vacate_eq size before lastEq]
    exact if_pos known'
  · rename_i notBefore
    obtain rfl : place = last := by omega
    rw [if_pos (by omega), Store.vacate, back]
    dsimp only
    have ends : ¬ place < (store.slots.setIfInBounds place slot).pop.size := by simp [size]
    rw [if_neg ends]
    rfl

/-- In a chain, the neighbours of a slot are among the others, or the gap. -/
theorem links_mem_circuit {front back : List Nat}
    (linked : store.Linked (front ++ place :: back)) :
    store.newerOf (some place) ∈ circuit (front ++ back) ∧
      store.olderOf (some place) ∈ circuit (front ++ back) := by
  obtain ⟨before, first, last, after, around, without⟩ := exists_circuit_around front back
  have chained : Chained store.olderOf store.newerOf
      (before ++ first :: some place :: last :: after) := around place ▸ linked
  obtain ⟨newerEq, olderEq⟩ := eq_links_of_chained chained
  rw [newerEq, olderEq, without]
  simp

/-! ## Operations on arranged stores -/

section Arranged

variable [HasSize V]

/-- The ends and the neighbours of a slot of an arranged store are there. -/
theorem within_links (arranged : store.Arranged order) (place : Option Nat)
    (within : store.Within place) :
    store.Within (store.newerOf place) ∧ store.Within (store.olderOf place) :=
  ⟨(arranged.joined_newer within).1, (arranged.joined_older within).1⟩

theorem within_newest (arranged : store.Arranged order) : store.Within store.newest :=
  (within_links arranged none fun _ isSlot => nomatch isSlot).2

/-- What a slot costs has been put in the account. -/
theorem cost_le_used (arranged : store.Arranged order) {slot : Slot V}
    (found : store.slots[place]? = some slot) : cost slot.key slot.value ≤ store.used := by
  have bound : place < store.slots.size := (Array.getElem?_eq_some_iff.mp found).1
  obtain ⟨front, back, rfl⟩ := List.append_of_mem (arranged.mem_iff.mpr bound)
  rw [arranged.used, pairsAt_append, pairsAt_cons found, Pairs.total_append, Pairs.total_cons]
  dsimp only
  omega

theorem get_eq_some (arranged : store.Arranged order) (key : String) :
    get store key = some (store.get? key) := by
  cases indexed : store.index[key]? with
  | none => simp [get, Store.get?, indexed]
  | some place =>
      obtain ⟨slot, found, _⟩ := (arranged.indexed_slot key place).mp indexed
      have bound : place < store.slots.size := (Array.getElem?_eq_some_iff.mp found).1
      obtain ⟨withinNewer, withinOlder⟩ := within_links arranged _ (within_some bound)
      have sameValue : (store.promote place).slots[place]?.map Slot.value = some slot.value := by
        have relinked : Relinked store (store.promote place) := relinked_promote place
        have samePair := congrFun relinked.pairs place
        rw [pairAt?, pairAt?, found] at samePair
        obtain ⟨promoted, isPromoted, same⟩ := Option.map_eq_some_iff.mp samePair
        rw [isPromoted, Option.map_some, (Prod.mk.inj same).2]
      obtain ⟨promoted, isPromoted, same⟩ := Option.map_eq_some_iff.mp sameValue
      simp [get, Store.get?, indexed, found, promote_eq_some bound (within_newest arranged)
        withinNewer withinOlder, isPromoted, same]

theorem write_eq_some (arranged : store.Arranged order) (key : String) (value : V) :
    write store key value = some (store.write key value) := by
  cases indexed : store.index[key]? with
  | none =>
      have size : (store.append key value).slots.size = store.slots.size + 1 := by simp [append]
      have withinFront : (store.append key value).Within (store.append key value).newest := by
        intro slot isNewest
        have bound := within_newest arranged slot isNewest
        omega
      simp only [write, Store.write, indexed]
      exact attach_eq_some (by omega) withinFront
  | some place =>
      obtain ⟨slot, found, _⟩ := (arranged.indexed_slot key place).mp indexed
      have bound : place < store.slots.size := (Array.getElem?_eq_some_iff.mp found).1
      obtain ⟨withinNewer, withinOlder⟩ := within_links arranged _ (within_some bound)
      have affordable : HasSize.size slot.value ≤ store.used :=
        (Nat.le_add_left _ _).trans (cost_le_used arranged found)
      obtain ⟨olderSame, newerSame⟩ := links_overwrite found value
      have size : (store.overwrite place slot value).slots.size = store.slots.size := by
        simp [overwrite]
      have promoted : promote (store.overwrite place slot value) place =
          some ((store.overwrite place slot value).promote place) := by
        apply promote_eq_some (size ▸ bound)
        · rw [Within, size]
          exact within_newest arranged
        · rw [Within, size, newerSame]
          exact withinNewer
        · rw [Within, size, olderSame]
          exact withinOlder
      simp only [write, Store.write, indexed, found, spend, if_pos affordable,
        Option.bind_eq_bind, Option.bind_some]
      exact promoted

/-- The slot of the oldest pair can be freed once it is out of the links. -/
theorem vacate_detached {rest : List Nat} (arranged : store.Arranged (rest ++ [place])) :
    vacate (store.detach place) place = some ((store.detach place).vacate place) := by
  have bound : place < store.slots.size := arranged.bounds place (by simp)
  obtain ⟨last, size⟩ : ∃ last, store.slots.size = last + 1 := ⟨store.slots.size - 1, by omega⟩
  have same : Relinked store (store.detach place) := relinked_detach place
  have detachedSize : (store.detach place).slots.size = last + 1 := same.size.trans size
  obtain ⟨slot, found⟩ : ∃ slot, (store.detach place).slots[last]? = some slot :=
    ⟨_, Array.getElem?_eq_getElem (by omega)⟩
  have known : (store.detach place).index.contains slot.key := by
    have indexed : store.index[slot.key]? = some last := by
      rw [arranged.indexed, ← same.pairs, pairAt?, found]
      exact ⟨slot.value, rfl⟩
    rw [same.index, Std.HashMap.contains_eq_isSome_getElem?, indexed]
    rfl
  refine vacate_eq_some detachedSize (by omega) found (fun before other isLink => ?_) known
  have linked : (store.detach place).Linked rest := by
    simpa using linked_detach arranged.linked arranged.nodup arranged.bounds
  have listed : last ∈ rest := by
    have mem : last ∈ rest ++ [place] := arranged.mem_iff.mpr (by omega)
    simpa [Nat.ne_of_gt before] using mem
  have restNodup : rest.Nodup := (List.nodup_append.mp arranged.nodup).1
  obtain ⟨front, back, rfl⟩ := List.append_of_mem listed
  obtain ⟨newerMem, olderMem⟩ := links_mem_circuit linked
  simp only [newerOf, olderOf, found, Option.bind_some] at newerMem olderMem
  have otherMem : other ∈ front ++ back := by
    rcases isLink with isNewer | isOlder
    · rw [isNewer, mem_circuit] at newerMem
      exact newerMem
    · rw [isOlder, mem_circuit] at olderMem
      exact olderMem
  have otherBound : other < store.slots.size := by
    apply arranged.bounds
    simp only [List.mem_append, List.mem_cons] at otherMem ⊢
    tauto
  have isOther : other ≠ last := by
    rintro rfl
    exact (List.nodup_cons.mp (List.nodup_middle.mp restNodup)).1 otherMem
  omega

theorem popOldest_eq_some (arranged : store.Arranged order) :
    popOldest store = some store.popOldest? := by
  rcases List.eq_nil_or_concat' order with rfl | ⟨rest, place, rfl⟩
  · have noOldest : store.oldest = none := arranged.oldest_eq
    simp [popOldest, Store.popOldest?, noOldest]
  · have oldest : store.oldest = some place := by
      rw [arranged.oldest_eq, List.getLast?_concat]
    have bound : place < store.slots.size := arranged.bounds place (by simp)
    obtain ⟨slot, found⟩ : ∃ slot, store.slots[place]? = some slot :=
      ⟨_, Array.getElem?_eq_getElem bound⟩
    obtain ⟨last, size⟩ : ∃ last, store.slots.size = last + 1 :=
      ⟨store.slots.size - 1, by omega⟩
    obtain ⟨withinNewer, withinOlder⟩ := within_links arranged _ (within_some bound)
    have same : Relinked store (store.detach place) := relinked_detach place
    have account : ((store.detach place).vacate place).used = store.used :=
      (size_vacate (same.size.trans size) (by omega)).2.1.trans same.used
    simp only [popOldest, Store.popOldest?, oldest, found, Option.bind_eq_bind, Option.bind_some,
      detach_eq_some bound withinNewer withinOlder, vacate_detached arranged, spend, account,
      if_pos (cost_le_used arranged found)]
    rfl

/-- An eviction that may take as many steps as there are pairs is through before they are
used up: a store without pairs has an empty account. -/
theorem evicts_evict {steps : Nat} (wellFormed : store.WellFormed) (enough : store.size ≤ steps) :
    Evicts store (store.evict steps).1 (store.evict steps).2 := by
  induction steps generalizing store with
  | zero =>
      obtain ⟨order, arranged⟩ := wellFormed
      have nothing : store.entries = [] :=
        List.eq_nil_of_length_eq_zero (arranged.length_entries.trans (Nat.le_zero.mp enough))
      refine .done ?_
      rw [isOver, arranged.used_eq, nothing]
      simp
  | succ steps inductionHypothesis =>
      cases isOver : store.isOver with
      | false =>
          rw [Store.evict, if_neg (by simp [isOver])]
          exact .done isOver
      | true =>
          obtain ⟨pair, next, popped, nextFormed, _, entriesEq, _⟩ := wellFormed.pop_of_isOver isOver
          obtain ⟨order, arranged⟩ := wellFormed
          obtain ⟨nextOrder, nextArranged⟩ := id nextFormed
          have shorter : next.size ≤ steps := by
            have lengths := congrArg List.length entriesEq
            rw [List.length_append, List.length_singleton, arranged.length_entries,
              nextArranged.length_entries] at lengths
            omega
          have checked := popOldest_eq_some arranged
          rw [popped] at checked
          rw [Store.evict, if_pos isOver, popped]
          exact .evicts isOver checked (inductionHypothesis nextFormed shorter)

/-- An eviction removes no more pairs than there are. -/
theorem length_evict_le (wellFormed : store.WellFormed) :
    (store.evict store.size).2.length ≤ store.size := by
  obtain ⟨order, arranged⟩ := id wellFormed
  obtain ⟨_, _, _, reported⟩ := wellFormed.evict (Nat.le_of_eq arranged.length_entries)
  rw [reported, List.length_reverse, List.length_drop, arranged.length_entries]
  omega

/-- Checked, an operation does what it does. -/
theorem performs_perform (wellFormed : store.WellFormed) (operation : Operation V) :
    Performs store operation (store.perform operation) := by
  obtain ⟨order, arranged⟩ := id wellFormed
  cases operation with
  | put key value =>
      exact .put (write_eq_some arranged key value)
        (evicts_evict (wellFormed.write key value).1 (Nat.le_refl _))
  | get key =>
      have checked := get_eq_some arranged key
      rw [perform]
      cases found : store.get? key with
      | none => exact .miss (found ▸ checked)
      | some read => exact .hit (found ▸ checked)
  | contains key => exact .contains
  | popOldest =>
      have checked := popOldest_eq_some arranged
      rw [perform]
      cases popped : store.popOldest? with
      | none => exact .popNothing (popped ▸ checked)
      | some removed => exact .pop (popped ▸ checked)
  | list =>
      rw [perform, arranged.entries_eq]
      exact .list arranged.walks

end Arranged

end Checked

/-- Whatever is done to an empty store, its slots, links, index and account agree with each
other afterwards, and without slots the account is empty. Every further operation can be
checked: it touches no slot that is not there and takes no more from the account than is
in it, and what it then gives is what it gives unchecked, and nothing else. The listing
of the pairs ends after as many steps as there are slots, and a write is through with its
evictions after as many of them as there are pairs then. -/
theorem checked_after [HasSize V] (budget : Nat) (operations : List (Operation V)) :
    let store := (Store.empty budget : Store V).after operations
    store.Sound ∧ (store.size = 0 → store.used = 0) ∧
    (∀ operation result,
      Checked.Performs store operation result ↔ result = store.perform operation) ∧
    (∃ order, store.Walks store.newest order ∧ order.length = store.size ∧
      store.entries = store.pairsAt order) ∧
    ∀ key value, ∃ written last pairs, Checked.write store key value = some written ∧
      Checked.Evicts written last pairs ∧ pairs.length ≤ written.size ∧
      store.put key value = (last, pairs) := by
  intro store
  have wellFormed : store.WellFormed := wellFormed_after budget operations
  obtain ⟨order, arranged⟩ := id wellFormed
  refine ⟨arranged.sound, fun nothing => ?_, fun operation result => ?_, ?_, fun key value => ?_⟩
  · have noEntries : store.entries = [] :=
      List.eq_nil_of_length_eq_zero (arranged.length_entries.trans nothing)
    rw [arranged.used_eq, noEntries, Pairs.total_nil]
  · have performs := Checked.performs_perform wellFormed operation
    constructor
    · intro performsResult
      exact performsResult.unique performs
    · rintro rfl
      exact performs
  · exact ⟨order, arranged.walks, arranged.length, arranged.entries_eq⟩
  · have formed : (store.write key value).WellFormed := (wellFormed.write key value).1
    exact ⟨_, _, _, Checked.write_eq_some arranged key value,
      Checked.evicts_evict formed (Nat.le_refl _), Checked.length_evict_le formed, rfl⟩

end RingCache.Recency.Store
