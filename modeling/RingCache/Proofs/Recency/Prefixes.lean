import RingCache.Proofs.Recency.Refinement

/-!
# Prefixes that keep a budget

How `Pairs.fitting` depends on the budget and on the pairs. A larger budget keeps a longer
prefix (`fitting_prefix_fitting`). And when a pair comes to the front, it makes no difference
whether the pairs behind it had been cut to the budget before (`fitting_front`): what was cut
off would not fit now either.
-/

namespace RingCache.Recency.Pairs

variable {V : Type} [HasSize V] {pairs front back : Pairs V} {budget : Nat} {key : String}
  {value : V}

/-- What fits is a prefix. -/
theorem fitting_isPrefix (pairs : Pairs V) (budget : Nat) : pairs.fitting budget <+: pairs := by
  by_cases unlimited : budget = 0
  · exact ⟨[], by rw [fitting_eq_self (.inl unlimited), List.append_nil]⟩
  · exact (fitting_longest pairs unlimited).1

/-- A larger budget keeps at least as much, where zero is no limit. -/
theorem fitting_prefix_fitting (pairs : Pairs V) {small large : Nat}
    (larger : (small ≠ 0 ∧ small ≤ large) ∨ large = 0) :
    pairs.fitting small <+: pairs.fitting large := by
  by_cases unlimited : large = 0
  · rw [fitting_eq_self (.inl unlimited)]
    exact fitting_isPrefix pairs small
  · obtain ⟨limited, less⟩ := larger.resolve_right unlimited
    obtain ⟨isPrefix, keeps, _⟩ := fitting_longest pairs limited
    obtain ⟨isPrefixLarge, _, longest⟩ := fitting_longest pairs unlimited
    exact List.prefix_of_prefix_length_le isPrefix isPrefixLarge
      (longest _ isPrefix (Nat.le_trans keeps less))

/-- The first pair that does not fit exceeds the budget. -/
theorem exceeds_of_fitting (limited : budget ≠ 0) {next : String × V} {rest : Pairs V}
    (split : pairs = pairs.fitting budget ++ next :: rest) :
    budget < total (pairs.fitting budget) + cost next.1 next.2 := by
  by_contra fits
  have isPrefix : pairs.fitting budget ++ [next] <+: pairs := by
    refine ⟨rest, ?_⟩
    rw [List.append_assoc]
    exact split.symm
  have within : total (pairs.fitting budget ++ [next]) ≤ budget := by
    rw [total_append, total_cons, total_nil]
    omega
  have longer := (fitting_longest pairs limited).2.2 _ isPrefix within
  rw [List.length_append, List.length_singleton] at longer
  omega

/-- If no pair of the back fits behind the front, it does not matter whether they are
there. -/
theorem fitting_append (limited : budget ≠ 0)
    (exceeds : ∀ next rest, back = next :: rest → budget < total front + cost next.1 next.2) :
    fitting (front ++ back) budget = front.fitting budget := by
  obtain ⟨isPrefix, keeps, longest⟩ := fitting_longest (front ++ back) limited
  obtain ⟨frontPrefix, frontKeeps, frontLongest⟩ := fitting_longest front limited
  have short : (fitting (front ++ back) budget).length ≤ front.length := by
    by_contra long
    cases back with
    | nil =>
        have bound := isPrefix.length_le
        rw [List.append_nil] at bound long
        exact long bound
    | cons next rest =>
        have wholePrefix : front ++ [next] <+: front ++ next :: rest :=
          ⟨rest, by rw [List.append_assoc]; rfl⟩
        have reaches : front ++ [next] <+: fitting (front ++ next :: rest) budget := by
          refine List.prefix_of_prefix_length_le wholePrefix isPrefix ?_
          rw [List.length_append, List.length_singleton]
          omega
        have within := Nat.le_trans (total_prefix_le reaches) keeps
        rw [total_append, total_cons, total_nil] at within
        have exceeded := exceeds next rest rfl
        omega
  have inFront : fitting (front ++ back) budget <+: front :=
    List.prefix_of_prefix_length_le isPrefix (List.prefix_append front back) short
  have sameLength : (fitting (front ++ back) budget).length = (front.fitting budget).length :=
    Nat.le_antisymm (frontLongest _ inFront keeps)
      (longest _ (frontPrefix.trans (List.prefix_append front back)) frontKeeps)
  exact (List.prefix_of_prefix_length_le inFront frontPrefix
    (Nat.le_of_eq sameLength)).eq_of_length sameLength

omit [HasSize V] in
theorem without_append (front back : Pairs V) (key : String) :
    without (front ++ back) key = front.without key ++ back.without key :=
  List.filter_append front back

omit [HasSize V] in
/-- If the keys differ, the other pairs are those of other keys. -/
theorem others_of_nodup (differ : ((front ++ (key, value) :: back).map Prod.fst).Nodup) :
    ∀ pair ∈ front ++ back, pair.1 ≠ key := by
  rw [List.map_append, List.map_cons] at differ
  have apart := (List.nodup_cons.mp (List.perm_middle.nodup_iff.mp differ)).1
  rw [← List.map_append] at apart
  exact fun pair listed same => apart (List.mem_map.mpr ⟨pair, listed, same⟩)

/-- Pairs whose keys differ cost what their pair of a key costs and what the others cost. -/
theorem total_without (differ : (pairs.map Prod.fst).Nodup) (mem : (key, value) ∈ pairs) :
    total pairs = cost key value + total (pairs.without key) := by
  obtain ⟨front, back, rfl⟩ := List.append_of_mem mem
  rw [without_split (others_of_nodup differ), total_append, total_cons, total_append]
  dsimp only
  omega

/-- When a pair comes to the front in place of the old one of its key, which has the same
value, it makes no difference whether the pairs had been cut to the budget before. -/
theorem fitting_front (differ : (pairs.map Prod.fst).Nodup)
    (same : ∀ other, (key, other) ∈ pairs → other = value) :
    fitting ((key, value) :: (pairs.fitting budget).without key) budget =
      fitting ((key, value) :: pairs.without key) budget := by
  by_cases unlimited : budget = 0
  · rw [fitting_eq_self (.inl unlimited), fitting_eq_self (.inl unlimited),
      fitting_eq_self (.inl unlimited)]
  obtain ⟨rest, split⟩ := fitting_isPrefix pairs budget
  have splitWithout : (key, value) :: pairs.without key =
      ((key, value) :: (pairs.fitting budget).without key) ++ without rest key := by
    rw [List.cons_append, ← without_append, split]
  rw [splitWithout, fitting_append unlimited]
  intro next later isRest
  cases rest with
  | nil => cases isRest
  | cons first others =>
      have exceeded := exceeds_of_fitting unlimited split.symm
      have isNext : first.1 ≠ key → first = next := by
        intro differs
        rw [without, List.filter_cons_of_pos (by simpa using differs)] at isRest
        exact (List.cons.inj isRest).1
      rw [total_cons]
      dsimp only
      by_cases listed : ∃ other, (key, other) ∈ pairs.fitting budget
      · -- The old pair of the key has fitted, so that the first one that did not is the next.
        obtain ⟨other, mem⟩ := listed
        obtain rfl := same other (mem_of_mem_fitting mem)
        have differs : first.1 ≠ key := by
          intro isKey
          rw [← split, List.map_append, List.nodup_append] at differ
          exact differ.2.2 key (List.mem_map_of_mem mem) first.1 List.mem_cons_self isKey.symm
        have whole := total_without
          (differ.sublist ((fitting_isPrefix pairs budget).sublist.map Prod.fst)) mem
        rw [← isNext differs]
        omega
      · have absent : ∀ pair ∈ pairs.fitting budget, pair.1 ≠ key := by
          rintro pair mem rfl
          exact listed ⟨pair.2, mem⟩
        rw [without_absent absent]
        by_cases isKey : first.1 = key
        · have isOld : first.2 = value := by
            refine same first.2 ?_
            rw [← isKey, ← split]
            exact List.mem_append_right _ List.mem_cons_self
          rw [isKey, isOld] at exceeded
          omega
        · rw [← isNext isKey]
          omega

end RingCache.Recency.Pairs
