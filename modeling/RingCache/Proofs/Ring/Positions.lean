import Mathlib.Data.List.Sort
import RingCache.Ring

/-!
# Positions in order

What a ring does with its positions. Leaving out repetitions keeps every position
(`mem_eraseReps`), and each once if they are in order (`eraseReps_ascends`). The search for a hash
halves the places that are left, and keeps that all positions in front of them are before the hash
and none behind them is (`Between`). So it ends at the home of the hash, which is the first position
at or after it, or the lowest one if there is none (`home_of_search`).
-/

namespace RingCache.Ring

variable {position first second hash : UInt32} {rest list : List UInt32} {positions : Array UInt32}
  {low high : Nat}

/-! ## Positions without repetitions -/

/-- What has been put aside comes first. -/
theorem eraseRepsBy_loop_eq (same : UInt32 → UInt32 → Bool) (last : UInt32)
    (rest aside : List UInt32) :
    List.eraseRepsBy.loop same last rest aside =
      aside.reverse ++ List.eraseRepsBy.loop same last rest [] := by
  induction rest generalizing last aside with
  | nil => simp [List.eraseRepsBy.loop]
  | cons next rest inductionHypothesis =>
      simp only [List.eraseRepsBy.loop]
      split
      · exact inductionHypothesis last aside
      · rw [inductionHypothesis next (last :: aside), inductionHypothesis next [last]]
        simp

theorem eraseReps_cons_cons (first second : UInt32) (rest : List UInt32) :
    (first :: second :: rest).eraseReps =
      if first = second then (first :: rest).eraseReps
      else first :: (second :: rest).eraseReps := by
  simp only [List.eraseReps, List.eraseRepsBy, List.eraseRepsBy.loop]
  by_cases same : first = second
  · simp [same]
  · rw [beq_eq_false_iff_ne.mpr same, if_neg same]
    exact eraseRepsBy_loop_eq _ second rest [first]

/-- Every position stays, at least once. -/
theorem mem_eraseReps : position ∈ list.eraseReps ↔ position ∈ list := by
  cases list with
  | nil => rfl
  | cons first rest =>
      induction rest generalizing first with
      | nil => rfl
      | cons second rest inductionHypothesis =>
          rw [eraseReps_cons_cons]
          split
          · rename_i same
            simp [inductionHypothesis, same]
          · simp [inductionHypothesis]

/-- Of positions in order, each stays once. -/
theorem eraseReps_ascends (sorted : list.Pairwise (· ≤ ·)) :
    list.eraseReps.Pairwise (· < ·) := by
  cases list with
  | nil => exact List.Pairwise.nil
  | cons first rest =>
      induction rest generalizing first with
      | nil => exact List.pairwise_singleton _ _
      | cons second rest inductionHypothesis =>
          obtain ⟨before, sortedRest⟩ := List.pairwise_cons.mp sorted
          rw [eraseReps_cons_cons]
          split
          · exact inductionHypothesis first (sorted.sublist (by simp))
          · rename_i differs
            refine List.pairwise_cons.mpr
              ⟨fun other listed => ?_, inductionHypothesis second sortedRest⟩
            have toSecond : first < second :=
              UInt32.lt_of_le_of_ne (before second List.mem_cons_self) differs
            rcases List.mem_cons.mp (mem_eraseReps.mp listed) with rfl | behind
            · exact toSecond
            · exact UInt32.lt_of_lt_of_le toSecond
                ((List.pairwise_cons.mp sortedRest).1 other behind)

/-! ## Search -/

/-- Whether the positions in front of `low` are before a hash, and those from `high` on are not. -/
structure Between (hash : UInt32) (positions : Array UInt32) (low high : Nat) : Prop where
  ordered : low ≤ high
  bounded : high ≤ positions.size
  before : ∀ place, (bound : place < positions.size) → place < low → positions[place] < hash
  after : ∀ place, (bound : place < positions.size) → high ≤ place → hash ≤ positions[place]

theorem getElem_le_getElem (ascends : positions.toList.Pairwise (· < ·)) {place other : Nat}
    (bound : other < positions.size) (le : place ≤ other) :
    positions[place] ≤ positions[other] := by
  rcases Nat.lt_or_eq_of_le le with less | rfl
  · exact UInt32.le_of_lt (List.pairwise_iff_getElem.mp ascends place other _ bound less)
  · exact UInt32.le_refl _

/-- What is known of the places that are left stays known of those that a search ends with. -/
theorem between_searchFrom (ascends : positions.toList.Pairwise (· < ·))
    (between : Between hash positions low high) :
    Between hash positions (searchFrom hash positions low high)
      (searchFrom hash positions low high) := by
  have ordered := between.ordered
  have bounded := between.bounded
  induction low, high using searchFrom.induct hash positions with
  | case1 low high left middle isBefore inductionHypothesis =>
      have inside : middle < positions.size := by omega
      rw [Array.getElem?_eq_getElem inside, Option.any_some, decide_eq_true_iff] at isBefore
      have next : Between hash positions (middle + 1) high := by
        refine ⟨by omega, bounded, fun place bound inFront => ?_, between.after⟩
        exact UInt32.lt_of_le_of_lt (getElem_le_getElem ascends inside (by omega)) isBefore
      rw [searchFrom, if_pos left]
      simpa [middle, inside, isBefore] using inductionHypothesis next next.ordered next.bounded
  | case2 low high left middle notBefore inductionHypothesis =>
      have inside : middle < positions.size := by omega
      rw [Array.getElem?_eq_getElem inside, Option.any_some, decide_eq_true_iff,
        UInt32.not_lt] at notBefore
      have next : Between hash positions low middle := by
        refine ⟨by omega, by omega, between.before, fun place bound behind => ?_⟩
        exact UInt32.le_trans notBefore (getElem_le_getElem ascends bound behind)
      rw [searchFrom, if_pos left]
      simpa [middle, inside, UInt32.not_lt.mpr notBefore] using
        inductionHypothesis next next.ordered next.bounded
  | case3 low high exhausted =>
      obtain rfl : low = high := by omega
      rwa [searchFrom, if_neg exhausted]

/-- The search ends where the positions before the hash end. -/
theorem between_search (ascends : positions.toList.Pairwise (· < ·)) (hash : UInt32) :
    Between hash positions (search hash positions) (search hash positions) := by
  refine between_searchFrom ascends ⟨Nat.zero_le _, Nat.le_refl _, fun _ _ => nofun, ?_⟩
  exact fun place bound behind => absurd bound (Nat.not_lt.mpr behind)

/-! ## Homes -/

/-- Whether a claimed position is the first one at or after a hash or, if there is
none, the lowest one. -/
def Home (claimed : UInt32 → Prop) (hash position : UInt32) : Prop :=
  claimed position ∧
    ((hash ≤ position ∧ ∀ other, claimed other → hash ≤ other → position ≤ other) ∨
      ∀ other, claimed other → other < hash ∧ position ≤ other)

/-- A hash has one home. -/
theorem Home.unique {claimed : UInt32 → Prop} {point other : UInt32}
    (home : Home claimed point position) (also : Home claimed point other) : position = other := by
  obtain ⟨claims, atOrAfter⟩ := home
  obtain ⟨otherClaims, otherAtOrAfter⟩ := also
  rcases atOrAfter with ⟨after, first⟩ | lowest <;>
    rcases otherAtOrAfter with ⟨otherAfter, otherFirst⟩ | otherLowest
  · exact UInt32.le_antisymm (first other otherClaims otherAfter) (otherFirst position claims after)
  · exact absurd after (UInt32.not_le.mpr (otherLowest position claims).1)
  · exact absurd otherAfter (UInt32.not_le.mpr (lowest other otherClaims).1)
  · exact UInt32.le_antisymm (lowest other otherClaims).2 (otherLowest position claims).2

/-- The position at which a search ends is the home of the hash, or the first position is if the
search ends behind the last one. -/
theorem home_of_search (ascends : positions.toList.Pairwise (· < ·)) (hash : UInt32)
    (found : positions[search hash positions % positions.size]? = some position) :
    Home (· ∈ positions) hash position := by
  have between := between_search ascends hash
  obtain ⟨inside, rfl⟩ := Array.getElem?_eq_some_iff.mp found
  refine ⟨Array.getElem_mem inside, ?_⟩
  rcases Nat.lt_or_eq_of_le between.bounded with within | atEnd
  · have place : search hash positions % positions.size = search hash positions :=
      Nat.mod_eq_of_lt within
    simp only [place]
    refine .inl ⟨between.after _ within (Nat.le_refl _), fun other listed notBefore => ?_⟩
    obtain ⟨otherPlace, bound, rfl⟩ := Array.mem_iff_getElem.mp listed
    refine getElem_le_getElem ascends bound (Nat.not_lt.mp fun inFront => ?_)
    exact UInt32.not_le.mpr (between.before otherPlace bound inFront) notBefore
  · refine .inr fun other listed => ?_
    obtain ⟨otherPlace, bound, rfl⟩ := Array.mem_iff_getElem.mp listed
    refine ⟨between.before otherPlace bound (by omega), getElem_le_getElem ascends bound ?_⟩
    rw [atEnd, Nat.mod_self]
    exact Nat.zero_le _

end RingCache.Ring
