import RingCache.Proofs.Recency.Occurrences
import RingCache.Proofs.Recency.Soundness

/-!
# Recency as the history of a run

A write of a key and a read that finds it touch the key. `Store.entries_in_order_of_last_touch`
is the main statement: at every moment of a run on an empty store, between two
evictions of one write too, the pairs lie in the order in which their keys were last
touched, and whatever is removed was last touched before all that stay.

`ListsByTouch` is the invariant. It says nothing of slots and links: a touch brings a
pair to the front (`ListsByTouch.touched`), and every other change leaves out pairs
(`ListsByTouch.sublist`). `Store.during` names the moments within an operation.
-/

namespace RingCache.Recency

variable {V : Type}

/-! ## Pairs in the order of the last touches -/

/-- Each pair was last touched at some number, and the newer of two pairs at the larger. -/
structure ListsByTouch (pairs : Pairs V) (last : String → Nat → Prop) : Prop where
  /-- Each pair has been touched. -/
  everTouched : ∀ pair ∈ pairs, ∃ number, last pair.1 number
  /-- Of two pairs, the newer one was touched after the older one. -/
  decreasing : pairs.Pairwise fun newer older =>
    ∃ late early, last newer.1 late ∧ last older.1 early ∧ early < late

namespace ListsByTouch

variable {pairs others : Pairs V} {last next : String → Nat → Prop} {key : String}

theorem nil : ListsByTouch ([] : Pairs V) last := by
  constructor <;> simp

theorem sublist (lists : ListsByTouch pairs last) (left : others.Sublist pairs) :
    ListsByTouch others last where
  everTouched pair mem := lists.everTouched pair (left.subset mem)
  decreasing := lists.decreasing.sublist left

/-- Numbers of last touches may be replaced where the keys of the pairs keep theirs. -/
theorem congr (lists : ListsByTouch pairs last)
    (keeps : ∀ pair ∈ pairs, ∀ number, last pair.1 number → next pair.1 number) :
    ListsByTouch pairs next where
  everTouched pair mem := by
    obtain ⟨number, isLast⟩ := lists.everTouched pair mem
    exact ⟨number, keeps pair mem number isLast⟩
  decreasing := by
    apply lists.decreasing.imp_of_mem
    rintro newer older newerMem olderMem ⟨late, early, isLate, isEarly, ordered⟩
    exact ⟨late, early, keeps newer newerMem late isLate, keeps older olderMem early isEarly,
      ordered⟩

/-- A touched key comes to the front. -/
theorem touched (lists : ListsByTouch pairs last) (value : V) {now : Nat}
    (isLast : next key now) (before : ∀ other number, last other number → number < now)
    (keeps : ∀ other ≠ key, ∀ number, last other number → next other number) :
    ListsByTouch ((key, value) :: pairs.without key) next := by
  have differs : ∀ pair ∈ pairs.without key, pair.1 ≠ key := by
    intro pair mem
    simpa using (List.mem_filter.mp mem).2
  have stay : ListsByTouch (pairs.without key) last := lists.sublist List.filter_sublist
  have rest : ListsByTouch (pairs.without key) next :=
    stay.congr fun pair mem => keeps pair.1 (differs pair mem)
  constructor
  · intro pair mem
    obtain rfl | older := List.mem_cons.mp mem
    · exact ⟨now, isLast⟩
    · exact rest.everTouched pair older
  · apply List.Pairwise.cons _ rest.decreasing
    intro older mem
    obtain ⟨early, isEarly⟩ := stay.everTouched older mem
    exact ⟨now, early, isLast, keeps older.1 (differs older mem) early isEarly,
      before older.1 early isEarly⟩

end ListsByTouch

namespace Store

variable [HasSize V] {start store : Store V} {operations : List (Operation V)}
  {operation : Operation V} {key : String} {number : Nat}

/-! ## Touches -/

/-- The key that an operation touches: that of a write, and that of a read which finds a value. -/
def touch? (store : Store V) : Operation V → Option String
  | .put key _ => some key
  | .get key => (store.get? key).map fun _ => key
  | .contains _ => none
  | .popOldest => none
  | .list => none

/-- Of some operations in a row, the one with this number touches a key. -/
def Touches (start : Store V) (operations : List (Operation V)) (key : String) (number : Nat) :
    Prop :=
  ∃ operation, operations[number]? = some operation ∧
    (start.after (operations.take number)).touch? operation = some key

/-- Of some operations in a row, the one with this number is the last that touches a key. -/
def LastTouch (start : Store V) (operations : List (Operation V)) (key : String) (number : Nat) :
    Prop :=
  start.Touches operations key number ∧
    ∀ other, start.Touches operations key other → other ≤ number

@[simp] theorem after_concat : start.after (operations ++ [operation]) =
    ((start.after operations).perform operation).1 := by
  simp [after]

theorem Touches.lt_length (touches : start.Touches operations key number) :
    number < operations.length := by
  obtain ⟨_, listed, _⟩ := touches
  exact (List.getElem?_eq_some_iff.mp listed).1

/-- One more operation touches its key after all that was touched before. -/
theorem touches_concat : start.Touches (operations ++ [operation]) key number ↔
    start.Touches operations key number ∨
      number = operations.length ∧ (start.after operations).touch? operation = some key := by
  by_cases earlier : number < operations.length
  · simp [Touches, List.getElem?_append_left earlier, List.take_append_of_le_length earlier.le,
      earlier.ne]
  · by_cases isNow : number = operations.length
    · simp [isNow, Touches]
    · have noTouch : ¬ start.Touches (operations ++ [operation]) key number := by
        intro touches
        have bound := touches.lt_length
        rw [List.length_append, List.length_singleton] at bound
        omega
      have noneBefore : ¬ start.Touches operations key number := fun touches =>
        earlier touches.lt_length
      simp [noTouch, noneBefore, isNow]

theorem LastTouch.lt_length (isLast : start.LastTouch operations key number) :
    number < operations.length :=
  isLast.1.lt_length

/-- A key that is touched now was last touched now. -/
theorem lastTouch_now (touches : (start.after operations).touch? operation = some key) :
    start.LastTouch (operations ++ [operation]) key operations.length := by
  refine ⟨touches_concat.mpr (.inr ⟨rfl, touches⟩), fun other touched => ?_⟩
  have bound := touched.lt_length
  rw [List.length_append, List.length_singleton] at bound
  omega

/-- A key that is not touched now was last touched when it was before. -/
theorem LastTouch.concat (isLast : start.LastTouch operations key number)
    (untouched : (start.after operations).touch? operation ≠ some key) :
    start.LastTouch (operations ++ [operation]) key number := by
  refine ⟨touches_concat.mpr (.inl isLast.1), fun other touched => ?_⟩
  obtain earlier | ⟨_, touches⟩ := touches_concat.mp touched
  · exact isLast.2 other earlier
  · exact absurd touches untouched

/-! ## The moments of an operation -/

/-- The store while an operation is performed, when it has removed so many pairs: a write
evicts after it has written. -/
def during (store : Store V) (operation : Operation V) (removed : Nat) : Store V :=
  match operation, removed with
  | .put key value, removed => ((store.write key value).evict removed).1
  | .popOldest, 0 => store
  | operation, _ => (store.perform operation).1

/-- What an eviction reports at a place is what the store popped at that moment. -/
theorem popOldest?_of_evicted {steps removed : Nat} {pair : String × V}
    (evicted : (store.evict steps).2[removed]? = some pair) :
    (store.evict removed).1.popOldest? = some (pair, (store.evict (removed + 1)).1) := by
  induction steps generalizing store removed with
  | zero => simp [evict] at evicted
  | succ steps inductionHypothesis =>
      by_cases isOver : store.isOver
      · cases popped : store.popOldest? with
        | none => simp [evict, isOver, popped] at evicted
        | some result =>
            obtain ⟨first, next⟩ := result
            simp only [evict, isOver, if_true, popped] at evicted
            cases removed with
            | zero =>
                obtain rfl : first = pair := by simpa using evicted
                simp [evict, isOver, popped]
            | succ removed =>
                have remaining : (next.evict steps).2[removed]? = some pair := by
                  simpa using evicted
                have later := inductionHypothesis remaining
                rw [evict, if_pos isOver, popped, evict, if_pos isOver, popped]
                exact later
      · simp [evict, isOver] at evicted

/-- After all that it reports, an eviction is done. -/
theorem evict_reported (steps : Nat) :
    (store.evict (store.evict steps).2.length).1 = (store.evict steps).1 := by
  induction steps generalizing store with
  | zero => rfl
  | succ steps inductionHypothesis =>
      by_cases isOver : store.isOver
      · cases popped : store.popOldest? with
        | none => simp [evict, isOver, popped]
        | some result =>
            simp only [evict, isOver, if_true, popped, List.length_cons]
            exact inductionHypothesis
      · simp [evict, isOver]

/-- After all that it reports, an operation is done. -/
theorem during_reported (store : Store V) (operation : Operation V) :
    store.during operation (store.perform operation).2.2.length =
      (store.perform operation).1 := by
  cases operation with
  | put key value => exact evict_reported _
  | popOldest =>
      cases popped : store.popOldest? with
      | none => simp [during, perform, popped]
      | some result => simp [during, perform, popped]
  | get key => simp [during]
  | contains key => simp [during]
  | list => simp [during]

/-- However many pairs have been evicted, the newest ones are left in their order. -/
theorem WellFormed.evict_isPrefix (wellFormed : store.WellFormed) (steps : Nat) :
    (store.evict steps).1.WellFormed ∧ (store.evict steps).1.entries <+: store.entries := by
  induction steps generalizing store with
  | zero => exact ⟨wellFormed, List.prefix_refl _⟩
  | succ steps inductionHypothesis =>
      by_cases isOver : store.isOver
      · obtain ⟨last, next, popped, nextFormed, _, entriesEq, _, _⟩ :=
          wellFormed.pop_of_isOver isOver
        obtain ⟨formed, isPrefix⟩ := inductionHypothesis nextFormed
        rw [Store.evict, if_pos isOver, popped]
        refine ⟨formed, isPrefix.trans ?_⟩
        rw [entriesEq]
        exact List.prefix_append _ _
      · rw [Store.evict, if_neg isOver]
        exact ⟨wellFormed, List.prefix_refl _⟩

theorem WellFormed.during (wellFormed : store.WellFormed) (operation : Operation V)
    (removed : Nat) : (store.during operation removed).WellFormed := by
  have performed : (store.perform operation).1.WellFormed := (wellFormed.perform_eq operation).2.1
  cases operation with
  | put key value => exact ((wellFormed.write key value).1.evict_isPrefix removed).1
  | popOldest =>
      cases removed with
      | zero => exact wellFormed
      | succ removed => exact performed
  | get key => exact performed
  | contains key => exact performed
  | list => exact performed

/-- A pop takes the last pair and leaves the others. -/
theorem WellFormed.entries_of_popped (wellFormed : store.WellFormed) {pair : String × V}
    {next : Store V} (popped : store.popOldest? = some (pair, next)) :
    store.entries = next.entries ++ [pair] := by
  obtain ⟨popEq, _⟩ := wellFormed.popOldest?_eq
  rw [popped, Option.map_some, Pairs.popOldest?, Option.map_eq_some_iff] at popEq
  obtain ⟨last, lastEq, pairEq⟩ := popEq
  obtain ⟨rest, entriesEq⟩ := List.getLast?_eq_some_iff.mp lastEq
  rw [entriesEq, List.dropLast_concat, Prod.mk.injEq] at pairEq
  rw [entriesEq, pairEq.1, pairEq.2]

/-- What an operation reports at a place is the last pair at that moment. -/
theorem WellFormed.entries_of_reported (wellFormed : store.WellFormed) {removed : Nat}
    {pair : String × V} (reported : (store.perform operation).2.2[removed]? = some pair) :
    (store.during operation removed).entries =
      (store.during operation (removed + 1)).entries ++ [pair] := by
  have formed := wellFormed.during operation removed
  cases operation with
  | put key value => exact formed.entries_of_popped (popOldest?_of_evicted reported)
  | popOldest =>
      cases popped : store.popOldest? with
      | none => simp [perform, popped] at reported
      | some result =>
          obtain ⟨oldest, next⟩ := result
          simp only [perform, popped, List.getElem?_singleton] at reported
          obtain ⟨rfl, rfl⟩ : removed = 0 ∧ oldest = pair := by simpa using reported
          simpa [Store.during, perform, popped] using wellFormed.entries_of_popped popped
  | get key =>
      cases read : store.get? key <;> simp [perform, read] at reported
  | contains key => simp [perform] at reported
  | list => simp [perform] at reported

/-! ## The order of a run -/

/-- One operation keeps the order of the last touches, at every moment of it. -/
theorem listsByTouch_during (wellFormed : (start.after operations).WellFormed)
    (lists : ListsByTouch (start.after operations).entries (start.LastTouch operations))
    (operation : Operation V) (removed : Nat) :
    ListsByTouch ((start.after operations).during operation removed).entries
      (start.LastTouch (operations ++ [operation])) := by
  have unmoved (noTouch : (start.after operations).touch? operation = none) :
      ListsByTouch (start.after operations).entries (start.LastTouch (operations ++ [operation])) :=
    lists.congr fun _ _ _ isLast => isLast.concat (by simp [noTouch])
  have moved (key : String) (value : V)
      (touches : (start.after operations).touch? operation = some key) :
      ListsByTouch ((key, value) :: Pairs.without (start.after operations).entries key)
        (start.LastTouch (operations ++ [operation])) :=
    lists.touched value (lastTouch_now touches) (fun _ _ isLast => isLast.lt_length)
      fun other differs _ isLast => isLast.concat (by simpa [touches] using differs.symm)
  cases operation with
  | put key value =>
      obtain ⟨writtenFormed, writtenEntries, _⟩ := wellFormed.write key value
      have written := moved key value rfl
      rw [← writtenEntries] at written
      exact written.sublist (writtenFormed.evict_isPrefix removed).2.sublist
  | get key =>
      obtain ⟨getEq, _⟩ := wellFormed.get?_eq key
      cases read : (start.after operations).get? key with
      | none => simpa [Store.during, perform, read] using unmoved (by simp [touch?, read])
      | some found =>
          rw [read, Option.map_some, Pairs.get?, Option.map_eq_some_iff] at getEq
          obtain ⟨value, _, isFound⟩ := getEq
          have promoted := moved key value (by simp [touch?, read])
          rw [(Prod.mk.inj isFound).2] at promoted
          simpa [Store.during, perform, read] using promoted
  | contains key => exact unmoved rfl
  | popOldest =>
      cases removed with
      | zero => exact unmoved rfl
      | succ removed =>
          cases popped : (start.after operations).popOldest? with
          | none => simpa [Store.during, perform, popped] using unmoved rfl
          | some result =>
              have entriesEq := wellFormed.entries_of_popped popped
              have left := (unmoved rfl).sublist
                (entriesEq ▸ List.sublist_append_left result.2.entries [result.1])
              simpa [Store.during, perform, popped] using left
  | list => exact unmoved rfl

/-- A run keeps the order of the last touches. -/
theorem listsByTouch_after (budget : Nat) (operations : List (Operation V)) :
    ListsByTouch ((empty budget : Store V).after operations).entries
      ((empty budget).LastTouch operations) := by
  induction operations using List.reverseRecOn with
  | nil =>
      have nothing : ((empty budget : Store V).after []).entries = [] := rfl
      rw [nothing]
      exact .nil
  | append_singleton operations operation inductionHypothesis =>
      have done := during_reported ((empty budget : Store V).after operations) operation
      rw [after_concat, ← done]
      exact listsByTouch_during (wellFormed_after budget operations) inductionHypothesis operation _

/-! ## What a write keeps -/

@[simp] theorem budget_after (budget : Nat) (operations : List (Operation V)) :
    ((empty budget : Store V).after operations).budget = budget := by
  induction operations using List.reverseRecOn with
  | nil => rfl
  | append_singleton operations operation inductionHypothesis =>
      rw [after_concat, ((wellFormed_after budget operations).perform_eq operation).2.2]
      exact inductionHypothesis

/-- A pair that costs no more than the budget outlasts its own write. -/
theorem WellFormed.put_keeps (wellFormed : store.WellFormed) {value : V}
    (affordable : store.budget = 0 ∨ cost key value ≤ store.budget) :
    (∀ pair ∈ (store.put key value).2, pair.1 ≠ key) ∧
      (store.put key value).1.entries.head? = some (key, value) := by
  let written : Pairs V := (key, value) :: Pairs.without store.entries key
  obtain ⟨putEq, _⟩ := wellFormed.put_eq key value
  have kept : Pairs.fitting written store.budget = (store.put key value).1.entries :=
    congrArg Prod.fst putEq
  have reported : (written.drop (Pairs.fitting written store.budget).length).reverse =
      (store.put key value).2 := congrArg Prod.snd putEq
  have single : [(key, value)] <+: Pairs.fitting written store.budget := by
    have isPrefix : [(key, value)] <+: written := List.prefix_append [(key, value)] _
    by_cases unlimited : store.budget = 0
    · rw [Pairs.fitting_eq_self (.inl unlimited)]
      exact isPrefix
    · obtain ⟨shorter, _, longest⟩ := Pairs.fitting_longest written unlimited
      refine List.prefix_of_prefix_length_le isPrefix shorter (longest _ isPrefix ?_)
      simpa using affordable.resolve_left unlimited
  obtain ⟨others, split⟩ := single
  constructor
  · intro pair mem
    rw [← reported, ← split, List.mem_reverse] at mem
    have older : pair ∈ Pairs.without store.entries key := List.mem_of_mem_drop mem
    simpa using (List.mem_filter.mp older).2
  · rw [← kept, ← split]
    rfl

/-- A pair that costs more than a limited budget takes everything with it. -/
theorem WellFormed.put_oversized (wellFormed : store.WellFormed) {value : V}
    (limited : store.budget ≠ 0) (oversized : store.budget < cost key value) :
    (store.put key value).1.entries = [] := by
  let written : Pairs V := (key, value) :: Pairs.without store.entries key
  obtain ⟨putEq, _⟩ := wellFormed.put_eq key value
  have kept : Pairs.fitting written store.budget = (store.put key value).1.entries :=
    congrArg Prod.fst putEq
  obtain ⟨isPrefix, keeps, _⟩ := Pairs.fitting_longest written limited
  rw [kept] at isPrefix keeps
  cases entriesEq : (store.put key value).1.entries with
  | nil => rfl
  | cons first rest =>
      rw [entriesEq] at isPrefix keeps
      obtain rfl : first = (key, value) := (List.cons_prefix_cons.mp isPrefix).1
      simp only [Pairs.total_cons] at keeps
      omega

/-- An operation that neither touches nor removes leaves the store as it is. -/
theorem perform_idle (noTouch : store.touch? operation = none)
    (noneRemoved : (store.perform operation).2.2 = []) : (store.perform operation).1 = store := by
  cases operation with
  | put key value => contradiction
  | get key =>
      have missing : store.get? key = none := by simpa [touch?] using noTouch
      rw [perform, missing]
  | contains key => rfl
  | popOldest =>
      cases popped : store.popOldest? with
      | none => rw [perform, popped]
      | some result => simp [perform, popped] at noneRemoved
  | list => rfl

/-- The pairs of a store lie in the order in which their keys were last touched, the
latest first, after every run on an empty store and at every moment of one more operation:
nothing but a touch brings a pair to another place, and each pair that is removed is the
one among those then in the store whose key was touched first. A write within the budget
keeps its own pair, and one that exceeds the budget leaves nothing. -/
theorem entries_in_order_of_last_touch (budget : Nat) (operations : List (Operation V))
    (operation : Operation V) :
    let start : Store V := empty budget
    let store := start.after operations
    let next := (store.perform operation).1
    let reported := (store.perform operation).2.2
    let last := start.LastTouch (operations ++ [operation])
    ListsByTouch store.entries (start.LastTouch operations) ∧
      (∀ removed, ListsByTouch (store.during operation removed).entries last ∧
        ∀ key, (store.during operation removed).contains key ↔
          key ∈ (store.during operation removed).entries.map Prod.fst) ∧
      store.during operation reported.length = next ∧
      (store.touch? operation = none → reported = [] → next = store) ∧
      (∀ removed pair, reported[removed]? = some pair →
        (store.during operation removed).entries =
          (store.during operation (removed + 1)).entries ++ [pair] ∧
        ∀ other ∈ (store.during operation (removed + 1)).entries,
          ∃ late early, last other.1 late ∧ last pair.1 early ∧ early < late) ∧
      ∀ key value, operation = .put key value →
        (budget = 0 ∨ cost key value ≤ budget →
          (∀ pair ∈ reported, pair.1 ≠ key) ∧ next.entries.head? = some (key, value)) ∧
        (budget ≠ 0 → budget < cost key value → next.entries = []) := by
  intro start store next reported last
  have wellFormed : store.WellFormed := wellFormed_after budget operations
  have lists : ListsByTouch store.entries (start.LastTouch operations) :=
    listsByTouch_after budget operations
  have moments (removed : Nat) : ListsByTouch (store.during operation removed).entries last :=
    listsByTouch_during wellFormed lists operation removed
  refine ⟨lists, fun removed => ⟨moments removed, fun key => ?_⟩, during_reported _ _,
    perform_idle, fun removed pair isReported => ?_, ?_⟩
  · obtain ⟨order, arranged⟩ := wellFormed.during operation removed
    rw [arranged.contains_eq key]
    simp [Pairs.contains]
  · have split := wellFormed.entries_of_reported isReported
    refine ⟨split, fun other mem => ?_⟩
    have ordered := (moments removed).decreasing
    rw [split, List.pairwise_append] at ordered
    exact ordered.2.2 other mem pair (List.mem_singleton_self pair)
  · rintro key value rfl
    have isBudget : store.budget = budget := budget_after budget operations
    constructor
    · intro affordable
      exact wellFormed.put_keeps (isBudget.symm ▸ affordable)
    · intro limited oversized
      exact wellFormed.put_oversized (isBudget.symm ▸ limited) (isBudget.symm ▸ oversized)

end Store

end RingCache.Recency
