import RingCache.Proofs.Recency.Arrangement

/-!
# Stores behave as pairs in the order of their use

`Store.observe_eq` is the main statement: whatever is done to an empty store can
be seen to have the same answers, reports, entries and account as the same
operations on pairs. One operation is `WellFormed.perform_eq`; the rest is
induction on the operations.
-/

namespace RingCache.Recency

variable {V : Type} [HasSize V] {store : Store V}

namespace Store

/-- An operation on a store is the operation on its pairs, and keeps the store
well formed. -/
theorem WellFormed.perform_eq (wellFormed : store.WellFormed) (operation : Operation V) :
    Pairs.perform store.entries store.budget operation =
        ((store.perform operation).1.entries, (store.perform operation).2) ∧
      (store.perform operation).1.WellFormed ∧
      (store.perform operation).1.budget = store.budget := by
  cases operation with
  | put key value =>
      obtain ⟨putEq, formed, budget⟩ := wellFormed.put_eq key value
      refine ⟨?_, formed, budget⟩
      rw [Pairs.perform, putEq]
      rfl
  | get key =>
      obtain ⟨getEq, keeps⟩ := wellFormed.get?_eq key
      rw [Pairs.perform, getEq, Store.perform]
      cases read : store.get? key with
      | none => exact ⟨rfl, wellFormed, rfl⟩
      | some found => exact ⟨rfl, keeps found.1 found.2 read⟩
  | contains key =>
      obtain ⟨order, arranged⟩ := wellFormed
      rw [Pairs.perform, ← arranged.contains_eq key]
      exact ⟨rfl, ⟨order, arranged⟩, rfl⟩
  | popOldest =>
      obtain ⟨popEq, keeps⟩ := wellFormed.popOldest?_eq
      rw [Pairs.perform, popEq, Store.perform]
      cases popped : store.popOldest? with
      | none => exact ⟨rfl, wellFormed, rfl⟩
      | some removed => exact ⟨rfl, keeps removed.1 removed.2 popped⟩
  | list => exact ⟨rfl, wellFormed, rfl⟩

/-- A well-formed store shows what its pairs show. -/
theorem WellFormed.observe_eq (wellFormed : store.WellFormed) (operations : List (Operation V)) :
    store.observe operations = Pairs.observe store.entries store.budget operations := by
  induction operations generalizing store with
  | nil => rfl
  | cons operation rest inductionHypothesis =>
      obtain ⟨performEq, formed, budget⟩ := wellFormed.perform_eq operation
      obtain ⟨order, arranged⟩ := id formed
      rw [Store.observe, Pairs.observe, performEq]
      dsimp only
      rw [arranged.length_entries, ← arranged.used_eq, inductionHypothesis formed, budget]

end Store

/-! ## The budget -/

namespace Pairs

variable {pairs : Pairs V} {key : String} {value : V}

theorem total_without_le (pairs : Pairs V) (key : String) :
    total (pairs.without key) ≤ total pairs := by
  induction pairs with
  | nil => exact Nat.le_refl _
  | cons pair rest inductionHypothesis =>
      unfold without at inductionHypothesis ⊢
      rw [List.filter_cons]
      split <;> rw [total_cons]
      · rw [total_cons]
        omega
      · omega

/-- Moving the pair of a key to the front does not cost more. -/
theorem total_promoted_le (found : pairs.lookup key = some value) :
    total ((key, value) :: pairs.without key) ≤ total pairs := by
  induction pairs with
  | nil => cases found
  | cons pair rest inductionHypothesis =>
      obtain ⟨other, otherValue⟩ := pair
      by_cases isKey : other = key
      · subst isKey
        rw [List.lookup_cons_self] at found
        cases found
        have dropped : Pairs.without ((other, value) :: rest) other = without rest other := by
          simp [without]
        rw [dropped, total_cons, total_cons]
        exact Nat.add_le_add_left (total_without_le rest other) _
      · have elsewhere : rest.lookup key = some value := by
          have differs : (key == other) = false := by simpa using Ne.symm isKey
          simpa only [List.lookup_cons, differs] using found
        have kept : Pairs.without ((other, otherValue) :: rest) key =
            (other, otherValue) :: without rest key := by
          simp [without, isKey]
        have bound := inductionHypothesis elsewhere
        rw [kept]
        rw [total_cons] at bound
        simp only [total_cons] at bound ⊢
        omega

/-- Pairs that keep the budget keep it under every operation. -/
theorem total_perform_le {budget : Nat} (limited : budget ≠ 0) (keeps : total pairs ≤ budget)
    (operation : Operation V) : total (pairs.perform budget operation).1 ≤ budget := by
  cases operation with
  | put key value => exact (fitting_longest _ limited).2.1
  | get key =>
      rw [perform, get?]
      cases found : pairs.lookup key with
      | none => exact keeps
      | some value => exact (total_promoted_le found).trans keeps
  | contains key => exact keeps
  | popOldest =>
      rw [perform, popOldest?]
      cases pairs.getLast? with
      | none => exact keeps
      | some pair => exact (total_prefix_le (List.dropLast_prefix pairs)).trans keeps
  | list => exact keeps

/-- Pairs that keep the budget are seen to keep it from then on. -/
theorem used_le_of_mem_observe {budget : Nat} (limited : budget ≠ 0)
    (keeps : total pairs ≤ budget) (operations : List (Operation V)) :
    ∀ observation ∈ pairs.observe budget operations, observation.used ≤ budget := by
  induction operations generalizing pairs with
  | nil => simp [observe]
  | cons operation rest inductionHypothesis =>
      have kept := total_perform_le limited keeps operation
      intro observation mem
      rcases List.mem_cons.mp mem with rfl | later
      · exact kept
      · exact inductionHypothesis kept observation later

end Pairs

/-! ## Runs from an empty store -/

/-- From an empty store on, everything that can be seen is what the operations on
pairs show; a budget is never exceeded; and what a write keeps of the pairs is
the longest prefix within the budget. -/
theorem Store.observe_empty_eq (budget : Nat) (operations : List (Operation V)) :
    (Store.empty budget : Store V).observe operations = Pairs.observe [] budget operations ∧
      (budget ≠ 0 →
        (∀ observation ∈ (Store.empty budget : Store V).observe operations,
          observation.used ≤ budget) ∧
        ∀ pairs : Pairs V, pairs.fitting budget <+: pairs ∧
          Pairs.total (pairs.fitting budget) ≤ budget ∧
          ∀ other : Pairs V, other <+: pairs → other.total ≤ budget →
            other.length ≤ (pairs.fitting budget).length) := by
  have formed : (Store.empty budget : Store V).WellFormed := ⟨[], Store.arranged_empty budget⟩
  have seen : (Store.empty budget : Store V).observe operations =
      Pairs.observe [] budget operations := formed.observe_eq operations
  refine ⟨seen, fun limited => ⟨?_, fun pairs => Pairs.fitting_longest pairs limited⟩⟩
  rw [seen]
  exact Pairs.used_le_of_mem_observe limited (Nat.zero_le _) operations

end RingCache.Recency
