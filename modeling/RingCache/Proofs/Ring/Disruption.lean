import RingCache.Proofs.Ring.Claims

/-!
# Which keys move

Two rings are compared of which one holds some of the other's names, in the same
order. A position whose owner has lost no place in the list keeps this owner
(`LastClaims.of_sublist`), and is still the home of every hash that it was the home
of (`Home.of_subset`). So a key moves only if its owner in the larger ring has lost
a place.
-/

namespace RingCache.Ring

variable {hash : Hash} {replicas : Nat} {names others : List String} {ring other : Ring}
  {owner : String} {position : UInt32}

/-- Fewer names claim fewer positions. -/
theorem Claimed.of_sublist (fewer : others.Sublist names)
    (claimed : Claimed hash replicas others position) : Claimed hash replicas names position := by
  obtain ⟨name, mem, claims⟩ := claimed
  exact ⟨name, fewer.subset mem, claims⟩

/-- A position that is left is still the home of every hash that it was the home
of. -/
theorem Home.of_subset {claimed left : UInt32 → Prop} {point : UInt32}
    (home : Home claimed point position) (fewer : ∀ position, left position → claimed position)
    (stays : left position) : Home left point position := by
  refine ⟨stays, ?_⟩
  rcases home.2 with ⟨after, first⟩ | lowest
  · exact .inl ⟨after, fun other claims => first other (fewer other claims)⟩
  · exact .inr fun other claims => lowest other (fewer other claims)

/-- An owner that has lost no place still owns what it owned: its last place is
left, and nobody behind it is new. -/
theorem LastClaims.of_sublist (owns : LastClaims hash replicas names position owner)
    (fewer : others.Sublist names) (keeps : names.count owner ≤ others.count owner) :
    LastClaims hash replicas others position owner := by
  obtain ⟨front, back, rfl, claims, last⟩ := owns
  obtain ⟨start, rest, rfl, inFront, inRest⟩ := List.sublist_append_iff.mp fewer
  rcases List.sublist_cons_iff.mp inRest with skipped | ⟨behind, rfl, inBack⟩
  · have fewerInFront := inFront.count_le owner
    have fewerInBack := skipped.count_le owner
    rw [List.count_append, List.count_append, List.count_cons_self] at keeps
    omega
  · exact ⟨start, behind, rfl, claims, fun name mem => last name (inBack.subset mem)⟩

/-- A key of a ring that loses names stays where it is, unless its owner has lost
a place. -/
theorem Holds.owner?_of_sublist (holds : ring.Holds hash replicas names)
    (left : other.Holds hash replicas others) (fewer : others.Sublist names) (key : String) :
    other.owner? key = ring.owner? key ∨
      ∃ owner, ring.owner? key = some owner ∧ others.count owner < names.count owner := by
  cases found : ring.owner? key with
  | none =>
      have unclaimed := (holds.owner?_eq_none_iff key).mp found
      exact .inl ((left.owner?_eq_none_iff key).mpr
        fun position claimed => unclaimed position (claimed.of_sublist fewer))
  | some owner =>
      obtain ⟨position, home, owns⟩ := (holds.owner?_eq_some_iff key).mp found
      by_cases lost : others.count owner < names.count owner
      · exact .inr ⟨owner, rfl, lost⟩
      · have stillOwns := owns.of_sublist fewer (Nat.le_of_not_lt lost)
        have stillHome := home.of_subset (fun _ claimed => claimed.of_sublist fewer)
          (claimed_iff.mpr ⟨owner, stillOwns⟩)
        exact .inl ((left.owner?_eq_some_iff key).mpr ⟨position, stillHome, stillOwns⟩)

/-- If some places are deleted from the list of names that a ring is made of, every
key keeps its owner, or its owner has lost one of these places. So names that are
added to a ring, whether they are new or not, only take keys for themselves, and
names that are left out only give up their own keys. -/
theorem keys_move_only_with_changed_names (hash : Hash) (replicas : Nat) :
    (∀ names others : List String, others.Sublist names → ∀ key,
      ((empty hash replicas).insertAll others).owner? key =
          ((empty hash replicas).insertAll names).owner? key ∨
        ∃ owner, ((empty hash replicas).insertAll names).owner? key = some owner ∧
          others.count owner < names.count owner) ∧
      (∀ (calls : List (List String)) (added : List String) (key : String),
        let ring := calls.foldl insertAll (empty hash replicas)
        (ring.insertAll added).owner? key = ring.owner? key ∨
          ∃ owner ∈ added, (ring.insertAll added).owner? key = some owner) ∧
      ∀ (names : List String) (leaves : String → Bool) (key : String),
        ((empty hash replicas).insertAll (names.filter fun name => !leaves name)).owner? key =
            ((empty hash replicas).insertAll names).owner? key ∨
          ∃ owner ∈ names, leaves owner ∧
            ((empty hash replicas).insertAll names).owner? key = some owner := by
  have holds : ∀ names : List String,
      ((empty hash replicas).insertAll names).Holds hash replicas names :=
    (holds_empty hash replicas).insertAll
  refine ⟨fun names others fewer => (holds names).owner?_of_sublist (holds others) fewer, ?_, ?_⟩
  · intro calls added key ring
    have placed : ring.Holds hash replicas calls.flatten :=
      (holds_empty hash replicas).foldl_insertAll calls
    have appended := placed.insertAll added
    rcases appended.owner?_of_sublist placed (List.sublist_append_left _ _) key with
      stays | ⟨owner, found, more⟩
    · exact .inl stays.symm
    · rw [List.count_append] at more
      exact .inr ⟨owner, List.count_pos_iff.mp (by omega), found⟩
  · intro names leaves key
    rcases (holds names).owner?_of_sublist (holds _) List.filter_sublist key with
      stays | ⟨owner, found, fewer⟩
    · exact .inl stays
    · refine .inr ⟨owner, List.count_pos_iff.mp (by omega), ?_, found⟩
      by_contra stays
      rw [List.count_filter (by simpa using stays)] at fewer
      exact absurd fewer (Nat.lt_irrefl _)

end RingCache.Ring
