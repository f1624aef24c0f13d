import RingCache.Ascending

/-!
# Lists in ascending order are finite maps

`latest?` is what a list of pairs means when a later pair of a key replaces the
earlier ones. Sorting pairs stably, merging them and dropping replaced pairs all
keep that meaning, so that `insertAll` is a plain override of maps
(`lookup_insertAll`). Its result ascends without a key twice (`Ascends.insertAll`),
which is all that `List.lookup` needs to find the one value of a key.
-/

namespace RingCache.Ascending

variable {κ β : Type} {pair : κ × β} {pairs map front back rest : List (κ × β)} {key : κ}

/-! ## Meaning -/

section Meaning

variable [DecidableEq κ]

/-- The value of the last pair of a key. -/
def latest? (pairs : List (κ × β)) (key : κ) : Option β :=
  pairs.reverse.lookup key

@[simp] theorem latest?_nil : latest? ([] : List (κ × β)) key = none := rfl

theorem latest?_append (front back : List (κ × β)) (key : κ) :
    latest? (front ++ back) key = (latest? back key).or (latest? front key) := by
  rw [latest?, List.reverse_append, List.lookup_append]
  rfl

theorem latest?_cons (pair : κ × β) (rest : List (κ × β)) (key : κ) :
    latest? (pair :: rest) key = (latest? rest key).or (latest? [pair] key) :=
  latest?_append [pair] rest key

/-- A key without a pair has no value. -/
theorem latest?_eq_none (absent : ∀ pair ∈ pairs, pair.1 ≠ key) : latest? pairs key = none := by
  refine List.lookup_eq_none_iff.mpr fun pair mem => ?_
  simpa using (absent pair (List.mem_reverse.mp mem)).symm

theorem latest?_other (differs : key ≠ pair.1) : latest? [pair] key = none := by
  refine latest?_eq_none fun other mem => ?_
  rw [List.mem_singleton.mp mem]
  exact differs.symm

/-- A key with a pair has a value. -/
theorem latest?_isSome (mem : pair ∈ pairs) : (latest? pairs pair.1).isSome := by
  rw [Option.isSome_iff_ne_none]
  intro missing
  have differs := List.lookup_eq_none_iff.mp missing pair (List.mem_reverse.mpr mem)
  simp at differs

/-- A value belongs to a pair of its key. -/
theorem mem_of_latest? {value : β} (found : latest? pairs key = some value) :
    (key, value) ∈ pairs := by
  obtain ⟨front, back, split, _⟩ := List.lookup_eq_some_iff.mp found
  refine List.mem_reverse.mp ?_
  rw [split]
  exact List.mem_append_right _ List.mem_cons_self

/-- A pair may stand on either side of pairs of other keys. -/
theorem latest?_or_comm (apart : ∀ other ∈ pairs, other.1 ≠ pair.1) :
    (latest? [pair] key).or (latest? pairs key) =
      (latest? pairs key).or (latest? [pair] key) := by
  by_cases isKey : key = pair.1
  · rw [isKey, latest?_eq_none apart, Option.or_none, Option.none_or]
  · rw [latest?_other isKey, Option.or_none, Option.none_or]

/-- Of fewer than two pairs none is replaced. -/
theorem lastOfEach_short
    (short : ∀ first second rest, pairs = first :: second :: rest → False) :
    lastOfEach pairs = pairs := by
  match pairs, short with
  | [], _ => rfl
  | [pair], _ => rfl
  | first :: second :: rest, short => exact (short first second rest rfl).elim

/-- Dropping replaced pairs keeps the meaning. -/
theorem latest?_lastOfEach (pairs : List (κ × β)) (key : κ) :
    latest? (lastOfEach pairs) key = latest? pairs key := by
  induction pairs using lastOfEach.induct with
  | case1 first second rest same inductionHypothesis =>
      rw [lastOfEach, if_pos same, inductionHypothesis, latest?_cons first]
      by_cases isKey : key = first.1
      · have found : (latest? (second :: rest) second.1).isSome :=
          latest?_isSome List.mem_cons_self
        rw [isKey, same, Option.or_of_isSome found]
      · rw [latest?_other isKey, Option.or_none]
  | case2 first second rest differs inductionHypothesis =>
      rw [lastOfEach, if_neg differs, latest?_cons, inductionHypothesis, ← latest?_cons]
  | case3 pairs short => rw [lastOfEach_short short]

/-- What is left after dropping was there before. -/
theorem lastOfEach_sublist (pairs : List (κ × β)) : (lastOfEach pairs).Sublist pairs := by
  induction pairs using lastOfEach.induct with
  | case1 first second rest same inductionHypothesis =>
      rw [lastOfEach, if_pos same]
      exact inductionHypothesis.cons first
  | case2 first second rest differs inductionHypothesis =>
      rw [lastOfEach, if_neg differs]
      exact inductionHypothesis.cons_cons first
  | case3 pairs short => exact (lastOfEach_short short).symm ▸ List.Sublist.refl pairs

/-- The map of pairs has no others. -/
theorem mem_of_mem_ofList [LT κ] [DecidableLT κ] (mem : pair ∈ ofList pairs) : pair ∈ pairs := by
  rw [ofList, Ascending.insertAll, List.nil_merge] at mem
  exact List.mem_mergeSort.mp ((lastOfEach_sublist _).mem mem)

theorem lookup_cons (pair : κ × β) (rest : List (κ × β)) (other : κ) :
    (pair :: rest).lookup other = if other = pair.1 then some pair.2 else rest.lookup other := by
  rw [List.lookup_cons]
  by_cases same : other = pair.1
  · rw [beq_iff_eq.mpr same, if_pos same]
  · rw [beq_eq_false_iff_ne.mpr same, if_neg same]

/-- A key that is inserted has its value, and all others have theirs. -/
theorem lookup_insert [LT κ] [DecidableLT κ] (key : κ) (value : β) (map : List (κ × β))
    (other : κ) :
    (insert key value map).lookup other = if other = key then some value else map.lookup other := by
  induction map with
  | nil => exact lookup_cons _ _ _
  | cons pair rest inductionHypothesis =>
      rw [insert]
      split
      · exact lookup_cons _ _ _
      · split
        · rename_i same
          rw [lookup_cons, lookup_cons, same]
          split <;> rfl
        · rename_i differs
          rw [lookup_cons, lookup_cons, inductionHypothesis]
          by_cases isKey : other = key
          · rw [if_pos isKey, if_pos isKey, if_neg (isKey ▸ differs)]
          · rw [if_neg isKey, if_neg isKey]

end Meaning

/-! ## Order -/

variable [LE κ] [LT κ] [DecidableLT κ] [Std.IsLinearOrder κ] [Std.LawfulOrderLT κ]

/-- Whether no key is less than the one before it. -/
def Sorted (pairs : List (κ × β)) : Prop :=
  pairs.Pairwise fun first second => inOrder first second

/-- Whether every key is greater than the one before it. -/
def Ascends (pairs : List (κ × β)) : Prop :=
  pairs.Pairwise fun first second => first.1 < second.1

theorem inOrder_iff {first second : κ × β} : inOrder first second ↔ first.1 ≤ second.1 := by
  rw [inOrder, Bool.not_eq_true', decide_eq_false_iff_not, Std.not_lt]

theorem inOrder_trans (first second third : κ × β) (one : inOrder first second)
    (other : inOrder second third) : inOrder first third :=
  inOrder_iff.mpr (Std.le_trans (inOrder_iff.mp one) (inOrder_iff.mp other))

theorem inOrder_total (first second : κ × β) : inOrder first second || inOrder second first := by
  rw [Bool.or_eq_true, inOrder_iff, inOrder_iff]
  exact Std.le_total

/-- A strictly ascending list is sorted. -/
theorem Ascends.sorted (ascends : Ascends pairs) : Sorted pairs :=
  ascends.imp fun less => inOrder_iff.mpr (Std.le_of_lt less)

variable [DecidableEq κ]

/-- Sorting stably keeps the meaning. -/
theorem latest?_mergeSort (pairs : List (κ × β)) (key : κ) :
    latest? (pairs.mergeSort inOrder) key = latest? pairs key := by
  induction pairs with
  | nil => rw [List.mergeSort_nil]
  | cons pair rest inductionHypothesis =>
      obtain ⟨front, back, sorted, sortedRest, before⟩ :=
        List.mergeSort_cons inOrder_trans inOrder_total pair rest
      have apart : ∀ other ∈ front, other.1 ≠ pair.1 := by
        intro other mem same
        have notBehind := before other mem
        rw [Bool.not_eq_true', ← Bool.not_eq_true, inOrder_iff, same] at notBehind
        exact notBehind (Std.le_refl _)
      calc latest? ((pair :: rest).mergeSort inOrder) key
        _ = (latest? (pair :: back) key).or (latest? front key) := by
            rw [sorted, latest?_append]
        _ = (latest? back key).or ((latest? [pair] key).or (latest? front key)) := by
            rw [latest?_cons, Option.or_assoc]
        _ = ((latest? back key).or (latest? front key)).or (latest? [pair] key) := by
            rw [latest?_or_comm apart, Option.or_assoc]
        _ = latest? (pair :: rest) key := by
            rw [← latest?_append, ← sortedRest, inductionHypothesis, ← latest?_cons]

/-- Merging sorted lists overrides the first by the second. -/
theorem latest?_merge (frontSorted : Sorted front) (backSorted : Sorted back) (key : κ) :
    latest? (front.merge back inOrder) key = (latest? back key).or (latest? front key) := by
  induction front generalizing back with
  | nil => rw [List.nil_merge, latest?_nil, Option.or_none]
  | cons one front frontHypothesis =>
      induction back with
      | nil => rw [List.merge_right, latest?_nil, Option.none_or]
      | cons other back backHypothesis =>
          obtain ⟨oneFirst, frontRest⟩ := List.pairwise_cons.mp frontSorted
          obtain ⟨_, backRest⟩ := List.pairwise_cons.mp backSorted
          rw [List.cons_merge_cons]
          split
          · rw [latest?_cons, frontHypothesis frontRest backSorted, Option.or_assoc,
              ← latest?_cons]
          · rename_i notBefore
            have less : other.1 < one.1 := by
              rwa [inOrder_iff, Std.not_le] at notBefore
            have apart : ∀ pair ∈ one :: front, pair.1 ≠ other.1 := by
              intro pair mem same
              rcases List.mem_cons.mp mem with rfl | later
              · exact Std.lt_irrefl (same ▸ less)
              · have atLeast := inOrder_iff.mp (oneFirst pair later)
                exact Std.lt_irrefl (Std.lt_of_lt_of_le less (same ▸ atLeast))
            rw [latest?_cons, backHypothesis backRest, Option.or_assoc,
              ← latest?_or_comm apart, ← Option.or_assoc, ← latest?_cons]

/-- Dropping leaves each key of a sorted list once. -/
theorem Sorted.ascends (sorted : Sorted pairs) : Ascends (lastOfEach pairs) := by
  induction pairs using lastOfEach.induct with
  | case1 first second rest same inductionHypothesis =>
      rw [lastOfEach, if_pos same]
      exact inductionHypothesis (List.pairwise_cons.mp sorted).2
  | case2 first second rest differs inductionHypothesis =>
      obtain ⟨before, sortedRest⟩ := List.pairwise_cons.mp sorted
      rw [lastOfEach, if_neg differs]
      refine List.pairwise_cons.mpr ⟨fun pair mem => ?_, inductionHypothesis sortedRest⟩
      have upToSecond := inOrder_iff.mp (before second List.mem_cons_self)
      have toSecond : first.1 < second.1 := Std.lt_of_le_of_ne upToSecond differs
      rcases List.mem_cons.mp ((lastOfEach_sublist _).subset mem) with rfl | later
      · exact toSecond
      · exact Std.lt_of_lt_of_le toSecond
          (inOrder_iff.mp ((List.pairwise_cons.mp sortedRest).1 pair later))
  | case3 pairs short =>
      match pairs, short with
      | [], _ => exact List.Pairwise.nil
      | [pair], _ => exact List.pairwise_singleton _ pair
      | first :: second :: rest, short => exact (short first second rest rfl).elim

omit [DecidableLT κ] [Std.IsLinearOrder κ] in
/-- From a strictly ascending list nothing is dropped. -/
theorem Ascends.lastOfEach_eq (ascends : Ascends pairs) : lastOfEach pairs = pairs := by
  induction pairs using lastOfEach.induct with
  | case1 first second rest same inductionHypothesis =>
      have less := (List.pairwise_cons.mp ascends).1 second List.mem_cons_self
      exact absurd (same ▸ less) Std.lt_irrefl
  | case2 first second rest differs inductionHypothesis =>
      rw [lastOfEach, if_neg differs, inductionHypothesis (List.pairwise_cons.mp ascends).2]
  | case3 pairs short => exact lastOfEach_short short

/-- A strictly ascending list is the map of its pairs. -/
theorem Ascends.ofList_eq (ascends : Ascends pairs) : ofList pairs = pairs := by
  rw [ofList, Ascending.insertAll, List.nil_merge, List.mergeSort_of_pairwise ascends.sorted,
    ascends.lastOfEach_eq]

/-! ## Inserting -/

omit [DecidableLT κ] [Std.IsLinearOrder κ] in
/-- What an ascending list finds for a key is the value of its last pair. -/
theorem Ascends.lookup_eq (ascends : Ascends pairs) (key : κ) :
    pairs.lookup key = latest? pairs key := by
  induction pairs with
  | nil => rfl
  | cons pair rest inductionHypothesis =>
      obtain ⟨before, ascendsRest⟩ := List.pairwise_cons.mp ascends
      have apart : ∀ other ∈ rest, other.1 ≠ pair.1 :=
        fun other mem same => Std.lt_irrefl (same ▸ before other mem)
      have single : [pair].lookup key = latest? [pair] key := rfl
      have split : (pair :: rest).lookup key = ([pair].lookup key).or (rest.lookup key) := by
        rw [← List.lookup_append, List.singleton_append]
      rw [split, single, inductionHypothesis ascendsRest, latest?_or_comm apart, ← latest?_cons]

omit [DecidableLT κ] [Std.IsLinearOrder κ] in
/-- An ascending list finds exactly its pairs. -/
theorem Ascends.lookup_eq_some_iff (ascends : Ascends pairs) {value : β} :
    pairs.lookup key = some value ↔ (key, value) ∈ pairs := by
  constructor
  · intro found
    rw [ascends.lookup_eq] at found
    exact mem_of_latest? found
  · intro mem
    induction pairs with
    | nil => cases mem
    | cons pair rest inductionHypothesis =>
        obtain ⟨before, ascendsRest⟩ := List.pairwise_cons.mp ascends
        rcases List.mem_cons.mp mem with rfl | later
        · exact List.lookup_cons_self
        · have differs : (key == pair.1) = false := by
            rw [beq_eq_false_iff_ne]
            exact fun same => Std.lt_irrefl (same ▸ before _ later)
          rw [List.lookup_cons, differs]
          exact inductionHypothesis ascendsRest later

omit [Std.LawfulOrderLT κ] [Std.IsLinearOrder κ] [LE κ] in
/-- What is inserted is the new pair, or was there before. -/
theorem mem_of_mem_insert {value : β} (mem : pair ∈ insert key value map) :
    pair = (key, value) ∨ pair ∈ map := by
  induction map with
  | nil => exact .inl (List.mem_singleton.mp mem)
  | cons first rest inductionHypothesis =>
      rw [insert] at mem
      split at mem
      · exact (List.mem_cons.mp mem).imp_right id
      · split at mem
        · exact (List.mem_cons.mp mem).imp_right (List.mem_cons_of_mem first)
        · rcases List.mem_cons.mp mem with rfl | later
          · exact .inr List.mem_cons_self
          · exact (inductionHypothesis later).imp_right (List.mem_cons_of_mem first)

/-- Inserting one pair keeps a list ascending. -/
theorem Ascends.insert (ascends : Ascends map) (key : κ) (value : β) :
    Ascends (insert key value map) := by
  induction map with
  | nil => exact List.pairwise_singleton _ _
  | cons first rest inductionHypothesis =>
      obtain ⟨before, ascendsRest⟩ := List.pairwise_cons.mp ascends
      rw [Ascending.insert]
      split
      · rename_i less
        refine List.pairwise_cons.mpr ⟨fun pair mem => ?_, ascends⟩
        rcases List.mem_cons.mp mem with rfl | later
        · exact less
        · exact Std.lt_trans less (before pair later)
      · rename_i notLess
        split
        · rename_i same
          exact List.pairwise_cons.mpr ⟨fun pair mem => same ▸ before pair mem, ascendsRest⟩
        · rename_i differs
          have less : first.1 < key :=
            Std.lt_of_le_of_ne (Std.not_lt.mp notLess) (Ne.symm differs)
          refine List.pairwise_cons.mpr ⟨fun pair mem => ?_, inductionHypothesis ascendsRest⟩
          rcases mem_of_mem_insert mem with rfl | later
          · exact less
          · exact before pair later

/-- Inserting keeps a list ascending. -/
theorem Ascends.insertAll (ascends : Ascends map) (pairs : List (κ × β)) :
    Ascends (insertAll pairs map) :=
  Sorted.ascends (List.pairwise_merge inOrder_trans inOrder_total _ _ ascends.sorted
    (List.pairwise_mergeSort inOrder_trans inOrder_total pairs))

/-- Inserting gives a key the value of its last new pair, or else leaves it the
value that it had. -/
theorem lookup_insertAll (ascends : Ascends map) (pairs : List (κ × β)) (key : κ) :
    (insertAll pairs map).lookup key = (latest? pairs key).or (map.lookup key) := by
  have sorted : Sorted (pairs.mergeSort inOrder) :=
    List.pairwise_mergeSort inOrder_trans inOrder_total pairs
  rw [(ascends.insertAll pairs).lookup_eq, Ascending.insertAll, latest?_lastOfEach,
    latest?_merge ascends.sorted sorted, latest?_mergeSort, ascends.lookup_eq]

/-! ## Keys -/

/-- The keys of the map of pairs ascend, each once. -/
theorem keys_ofList_ascend (pairs : List (κ × β)) :
    ((ofList pairs).map Prod.fst).Pairwise (· < ·) :=
  List.pairwise_map.mpr (Ascends.insertAll List.Pairwise.nil pairs)

/-- They are the keys of the pairs. -/
theorem mem_keys_ofList : key ∈ (ofList pairs).map Prod.fst ↔ key ∈ pairs.map Prod.fst := by
  simp only [List.mem_map]
  constructor
  · rintro ⟨pair, mem, isKey⟩
    exact ⟨pair, mem_of_mem_ofList mem, isKey⟩
  · rintro ⟨pair, mem, rfl⟩
    obtain ⟨value, latest⟩ := Option.isSome_iff_exists.mp (latest?_isSome mem)
    have ascends : Ascends (ofList pairs) := Ascends.insertAll List.Pairwise.nil pairs
    have found : (ofList pairs).lookup pair.1 = some value := by
      rw [ofList, lookup_insertAll List.Pairwise.nil, latest, Option.some_or]
    exact ⟨(pair.1, value), ascends.lookup_eq_some_iff.mp found, rfl⟩

end RingCache.Ascending
