import Mathlib.Data.Nat.Find
import RingCache.Recency

/-!
# Pairs in the order of their use

`Pairs` is a store as its users see it: the pairs themselves, newest first,
without slots, links or an index. Its operations are what the operations of a
`Store` mean. `fitting` is the longest prefix that keeps a budget
(`fitting_longest`); it can also be reached by dropping the oldest pair while the
budget is exceeded (`fitting_eq_dropLast`).

`Operation` names the operations and `Observation` what can be seen after one,
so that `Store.observe` and `Pairs.observe` can be compared step by step.
-/

namespace RingCache.Recency

variable {V : Type}

/-- Pairs of a key and a value, newest first. -/
abbrev Pairs (V : Type) := List (String × V)

namespace Pairs

/-- What the pairs cost together. -/
def total [HasSize V] : Pairs V → Nat
  | [] => 0
  | pair :: rest => cost pair.1 pair.2 + total rest

/-- The pairs of all other keys. -/
def without (pairs : Pairs V) (key : String) : Pairs V :=
  pairs.filter fun pair => pair.1 != key

/-- The value of a key, whose pair comes to the front. -/
def get? (pairs : Pairs V) (key : String) : Option (V × Pairs V) :=
  (pairs.lookup key).map fun value => (value, (key, value) :: pairs.without key)

/-- Whether a key has a value. -/
def contains (pairs : Pairs V) (key : String) : Bool :=
  pairs.any fun pair => pair.1 == key

/-- The oldest pair and the others. -/
def popOldest? (pairs : Pairs V) : Option ((String × V) × Pairs V) :=
  pairs.getLast?.map fun pair => (pair, pairs.dropLast)

/-- How many of the newest pairs keep a budget. -/
def fits [HasSize V] (pairs : Pairs V) (budget : Nat) : Nat :=
  Nat.findGreatest (fun count => total (pairs.take count) ≤ budget) pairs.length

/-- The longest prefix that keeps a budget; a budget of zero is no limit. -/
def fitting [HasSize V] (pairs : Pairs V) (budget : Nat) : Pairs V :=
  if budget = 0 then pairs else pairs.take (pairs.fits budget)

/-- A pair comes to the front in place of the old one of its key; what then
exceeds the budget is dropped, the oldest pair first. -/
def put [HasSize V] (pairs : Pairs V) (budget : Nat) (key : String) (value : V) :
    Pairs V × Pairs V :=
  let written : Pairs V := (key, value) :: pairs.without key
  let kept := written.fitting budget
  (kept, (written.drop kept.length).reverse)

/-! ## Totals and prefixes -/

@[simp] theorem total_nil [HasSize V] : total ([] : Pairs V) = 0 := rfl

@[simp] theorem total_cons [HasSize V] (pair : String × V) (pairs : Pairs V) :
    total (pair :: pairs) = cost pair.1 pair.2 + total pairs := rfl

@[simp] theorem total_append [HasSize V] (front back : Pairs V) :
    total (front ++ back) = total front + total back := by
  induction front with
  | nil => rw [List.nil_append, total_nil, Nat.zero_add]
  | cons pair rest inductionHypothesis =>
      rw [List.cons_append, total_cons, total_cons, inductionHypothesis, Nat.add_assoc]

/-- What pairs cost does not depend on their order. -/
theorem total_perm [HasSize V] {pairs others : Pairs V} (perm : pairs.Perm others) :
    total pairs = total others := by
  induction perm with
  | nil => rfl
  | cons pair _ inductionHypothesis => rw [total_cons, total_cons, inductionHypothesis]
  | swap first second rest =>
      rw [total_cons, total_cons, total_cons, total_cons]
      omega
  | trans _ _ firstHypothesis secondHypothesis => exact firstHypothesis.trans secondHypothesis

/-- A prefix costs no more than a longer one. -/
theorem total_prefix_le [HasSize V] {short long : Pairs V} (shorter : short <+: long) :
    total short ≤ total long := by
  obtain ⟨rest, rfl⟩ := shorter
  simp

theorem fits_le [HasSize V] (pairs : Pairs V) (budget : Nat) :
    pairs.fits budget ≤ pairs.length :=
  Nat.findGreatest_le _

/-- The newest pairs that fit keep the budget. -/
theorem total_take_fits [HasSize V] (pairs : Pairs V) (budget : Nat) :
    total (pairs.take (pairs.fits budget)) ≤ budget := by
  have empty : total (pairs.take 0) ≤ budget := by simp
  exact Nat.findGreatest_spec (P := fun count => total (pairs.take count) ≤ budget)
    (Nat.zero_le _) empty

/-- A limited fitting keeps its budget, and no longer prefix does. -/
theorem fitting_longest [HasSize V] (pairs : Pairs V) {budget : Nat} (limited : budget ≠ 0) :
    pairs.fitting budget <+: pairs ∧ total (pairs.fitting budget) ≤ budget ∧
      ∀ other : Pairs V, other <+: pairs → total other ≤ budget →
        other.length ≤ (pairs.fitting budget).length := by
  rw [fitting, if_neg limited]
  refine ⟨List.take_prefix _ _, total_take_fits pairs budget, ?_⟩
  intro other isPrefix keeps
  have within := isPrefix.length_le
  have taken : pairs.take other.length = other := (List.prefix_iff_eq_take.mp isPrefix).symm
  rw [List.length_take, Nat.min_eq_left (fits_le pairs budget)]
  exact Nat.le_findGreatest within (taken.symm ▸ keeps)

/-- Only pairs that were there fit. -/
theorem mem_of_mem_fitting [HasSize V] {pairs : Pairs V} {budget : Nat} {pair : String × V}
    (mem : pair ∈ pairs.fitting budget) : pair ∈ pairs := by
  rw [fitting] at mem
  split at mem
  · exact mem
  · exact List.mem_of_mem_take mem

/-- Pairs that keep the budget fit as a whole. -/
theorem fitting_eq_self [HasSize V] {pairs : Pairs V} {budget : Nat}
    (keeps : budget = 0 ∨ total pairs ≤ budget) : pairs.fitting budget = pairs := by
  rcases keeps with unlimited | keeps
  · simp [fitting, unlimited]
  · by_cases unlimited : budget = 0
    · simp [fitting, unlimited]
    · obtain ⟨isPrefix, _, longest⟩ := fitting_longest pairs unlimited
      exact isPrefix.eq_of_length_le (longest pairs (List.prefix_refl _) keeps)

/-- When pairs exceed the budget, the oldest of them does not fit. -/
theorem fitting_eq_dropLast [HasSize V] {pairs : Pairs V} {budget : Nat}
    (limited : budget ≠ 0) (exceeds : budget < total pairs) :
    pairs.fitting budget = Pairs.fitting pairs.dropLast budget := by
  obtain ⟨isPrefix, keeps, longest⟩ := fitting_longest pairs limited
  obtain ⟨isPrefix', keeps', longest'⟩ := fitting_longest pairs.dropLast limited
  have dropped : pairs.dropLast <+: pairs := List.dropLast_prefix pairs
  have proper : (pairs.fitting budget).length ≤ pairs.dropLast.length := by
    have different : pairs.fitting budget ≠ pairs := by
      intro same
      rw [same] at keeps
      omega
    have shorter : (pairs.fitting budget).length ≠ pairs.length := fun same =>
      different (isPrefix.eq_of_length same)
    have bound := isPrefix.length_le
    rw [List.length_dropLast]
    omega
  have inner : pairs.fitting budget <+: pairs.dropLast :=
    List.prefix_of_prefix_length_le isPrefix dropped proper
  have sameLength : (pairs.fitting budget).length =
      (Pairs.fitting pairs.dropLast budget).length :=
    Nat.le_antisymm (longest' _ inner keeps) (longest _ (isPrefix'.trans dropped) keeps')
  exact (List.prefix_of_prefix_length_le isPrefix (isPrefix'.trans dropped)
    (Nat.le_of_eq sameLength)).eq_of_length sameLength

/-! ## Pairs of one key -/

section OneKey

variable {front back pairs : Pairs V} {key : String} {value : V}

theorem without_split (others : ∀ pair ∈ front ++ back, pair.1 ≠ key) :
    without (front ++ (key, value) :: back) key = front ++ back := by
  have kept : (front ++ back).filter (fun pair => pair.1 != key) = front ++ back :=
    List.filter_eq_self.mpr fun pair mem => by simpa using others pair mem
  simpa [without, List.filter_append] using kept

theorem without_absent (absent : ∀ pair ∈ pairs, pair.1 ≠ key) : pairs.without key = pairs :=
  List.filter_eq_self.mpr fun pair mem => by simpa using absent pair mem

theorem get?_split (others : ∀ pair ∈ front ++ back, pair.1 ≠ key) :
    get? (front ++ (key, value) :: back) key = some (value, (key, value) :: (front ++ back)) := by
  have found : (front ++ (key, value) :: back).lookup key = some value := by
    rw [List.lookup_append]
    have missing : front.lookup key = none := by
      rw [List.lookup_eq_none_iff]
      intro pair mem
      have other := others pair (List.mem_append_left back mem)
      simpa using other.symm
    simp [missing]
  rw [get?, found, without_split others]
  rfl

theorem get?_absent (absent : ∀ pair ∈ pairs, pair.1 ≠ key) : pairs.get? key = none := by
  have missing : pairs.lookup key = none := by
    rw [List.lookup_eq_none_iff]
    intro pair mem
    simpa using (absent pair mem).symm
  rw [get?, missing]
  rfl

end OneKey

end Pairs

/-! ## Operations and what can be seen of them -/

/-- An operation on a store. -/
inductive Operation (V : Type) where
  /-- Write a value to a key. -/
  | put (key : String) (value : V)
  /-- Read the value of a key. -/
  | get (key : String)
  /-- Ask whether a key has a value. -/
  | contains (key : String)
  /-- Remove the oldest pair. -/
  | popOldest
  /-- List the pairs. -/
  | list

/-- The answer to an operation. -/
inductive Answer (V : Type) where
  | written
  | found (value : Option V)
  | resident (isResident : Bool)
  | popped (pair : Option (String × V))
  | listed (pairs : List (String × V))

/-- What can be seen of a store after an operation. -/
structure Observation (V : Type) where
  /-- The answer to the operation. -/
  answer : Answer V
  /-- The pairs that the operation removed and reported, in this order. -/
  reported : List (String × V)
  /-- The pairs that are left, newest first. -/
  entries : List (String × V)
  /-- How many pairs are left. -/
  size : Nat
  /-- What the pairs that are left cost. -/
  used : Nat

/-- Perform an operation on a store; the pairs removed to keep the budget or on
request are reported. -/
def Store.perform [HasSize V] (store : Store V) :
    Operation V → Store V × Answer V × List (String × V)
  | .put key value =>
      let written := store.put key value
      (written.1, .written, written.2)
  | .get key =>
      match store.get? key with
      | none => (store, .found none, [])
      | some (value, next) => (next, .found (some value), [])
  | .contains key => (store, .resident (store.contains key), [])
  | .popOldest =>
      match store.popOldest? with
      | none => (store, .popped none, [])
      | some (pair, next) => (next, .popped (some pair), [pair])
  | .list => (store, .listed store.entries, [])

/-- Perform an operation on pairs. -/
def Pairs.perform [HasSize V] (pairs : Pairs V) (budget : Nat) :
    Operation V → Pairs V × Answer V × List (String × V)
  | .put key value =>
      let written := pairs.put budget key value
      (written.1, .written, written.2)
  | .get key =>
      match pairs.get? key with
      | none => (pairs, .found none, [])
      | some (value, next) => (next, .found (some value), [])
  | .contains key => (pairs, .resident (pairs.contains key), [])
  | .popOldest =>
      match pairs.popOldest? with
      | none => (pairs, .popped none, [])
      | some (pair, next) => (next, .popped (some pair), [pair])
  | .list => (pairs, .listed pairs, [])

/-- What can be seen of a store while operations are performed. -/
def Store.observe [HasSize V] (store : Store V) : List (Operation V) → List (Observation V)
  | [] => []
  | operation :: rest =>
      let done := store.perform operation
      { answer := done.2.1
        reported := done.2.2
        entries := done.1.entries
        size := done.1.size
        used := done.1.used } :: done.1.observe rest

/-- What can be seen of pairs while operations are performed. -/
def Pairs.observe [HasSize V] (pairs : Pairs V) (budget : Nat) :
    List (Operation V) → List (Observation V)
  | [] => []
  | operation :: rest =>
      let done := pairs.perform budget operation
      { answer := done.2.1
        reported := done.2.2
        entries := done.1
        size := done.1.length
        used := done.1.total } :: Pairs.observe done.1 budget rest

end RingCache.Recency
