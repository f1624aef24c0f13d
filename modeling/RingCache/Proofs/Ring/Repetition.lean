import RingCache.Proofs.Ring.Agreement

/-!
# Names that are placed again

Names that are placed on a ring decide who owns what they claim, and the names before them decide
the rest (`lastClaims_append`). A ring is known by the owners of its positions (`Holds.unique`), so
that placing names twice in a row is placing them once. A name that a ring holds claims no new
position when it is placed again, but it takes back the positions that it had lost to names behind
it (`Overtaken`), and nothing else (`name_takes_back_what_it_lost`).
-/

namespace RingCache.Ring

variable {hash : Hash} {replicas : Nat} {names others : List String} {ring other : Ring}
  {name owner later : String} {position : UInt32}

namespace Holds

/-- Names that are placed again own what they own already. -/
theorem insertAll_insertAll (holds : ring.Holds hash replicas names) (added : List String) :
    (ring.insertAll added).insertAll added = ring.insertAll added := by
  have once := holds.insertAll added
  refine (once.insertAll added).unique once fun position owner => ?_
  simp only [lastClaims_append]
  tauto

end Holds

/-! ## Positions that a name has lost -/

/-- Whether a position that a name claims belongs to one that was placed after it. -/
structure Overtaken (hash : Hash) (replicas : Nat) (names : List String) (name : String)
    (position : UInt32) (later : String) : Prop where
  claims : Claims hash replicas name position
  owns : LastClaims hash replicas names position later
  behind : ∃ front back, names = front ++ name :: back ∧ name ∉ back ∧ later ∈ back

/-- A name has a last place in a list that has it. -/
theorem exists_last_place (mem : name ∈ names) :
    ∃ front back, names = front ++ name :: back ∧ name ∉ back := by
  obtain ⟨back, front, split, first⟩ := List.eq_append_cons_of_mem (List.mem_reverse.mpr mem)
  refine ⟨front.reverse, back.reverse, ?_, fun again => first (List.mem_reverse.mp again)⟩
  rw [← List.reverse_reverse names, split]
  simp

theorem Overtaken.ne (overtaken : Overtaken hash replicas names name position later) :
    later ≠ name := by
  obtain ⟨_, _, _, isLast, mem⟩ := overtaken.behind
  rintro rfl
  exact isLast mem

/-- If somebody else owns what a name claims, it is one that was placed after it. -/
theorem LastClaims.overtaken (owns : LastClaims hash replicas names position later)
    (claims : Claims hash replicas name position) (mem : name ∈ names) (differs : later ≠ name) :
    Overtaken hash replicas names name position later := by
  refine ⟨claims, owns, ?_⟩
  obtain ⟨front, back, rfl, _, last⟩ := owns
  have notBehind : name ∉ back := fun listed => last name listed claims
  have inFront : name ∈ front := by
    rcases List.mem_append.mp mem with before | listed
    · exact before
    · rcases List.mem_cons.mp listed with rfl | behind
      · exact absurd rfl differs
      · exact absurd behind notBehind
  obtain ⟨start, between, rfl, isLast⟩ := exists_last_place inFront
  refine ⟨start, between ++ later :: back, by simp, ?_, by simp⟩
  simp [isLast, notBehind, differs.symm]

/-! ## One name -/

namespace Holds

/-- A name that is placed again owns what it claims, and all others own what they did. -/
theorem lookup_insert (holds : ring.Holds hash replicas names) (name : String)
    (position : UInt32) (owner : String) :
    (ring.insertAll [name]).owners[position]? = some owner ↔
      (owner = name ∧ Claims hash replicas name position) ∨
        (¬ Claims hash replicas name position ∧ ring.owners[position]? = some owner) := by
  rw [(holds.insertAll [name]).owned, lastClaims_concat, ← holds.owned]

/-- It takes the positions that it claims and does not own. -/
theorem lookup_insert_ne_iff (holds : ring.Holds hash replicas names) (mem : name ∈ names) :
    (ring.insertAll [name]).owners[position]? ≠ ring.owners[position]? ↔
      ∃ later, Overtaken hash replicas names name position later := by
  constructor
  · intro changed
    have claims : Claims hash replicas name position := by
      by_contra unclaimed
      refine changed (Option.ext fun owner => ?_)
      simp [holds.lookup_insert, unclaimed]
    have taken : (ring.insertAll [name]).owners[position]? = some name :=
      (holds.lookup_insert name position name).mpr (.inl ⟨rfl, claims⟩)
    obtain ⟨later, owns⟩ := claimed_iff.mp ⟨name, mem, claims⟩
    refine ⟨later, owns.overtaken claims mem fun isName => changed ?_⟩
    rw [taken, (holds.owned _ _).mpr owns, isName]
  · rintro ⟨later, overtaken⟩ same
    have taken : (ring.insertAll [name]).owners[position]? = some name :=
      (holds.lookup_insert name position name).mpr (.inl ⟨rfl, overtaken.claims⟩)
    rw [same, (holds.owned _ _).mpr overtaken.owns] at taken
    exact overtaken.ne (Option.some.inj taken)

/-- The ring stays as it is exactly if the name owns all that it claims. -/
theorem insert_eq_self_iff (holds : ring.Holds hash replicas names) (name : String) :
    ring.insertAll [name] = ring ↔
      ∀ position, Claims hash replicas name position → ring.owners[position]? = some name := by
  constructor
  · intro same position claims
    have taken := (holds.lookup_insert name position name).mpr (.inl ⟨rfl, claims⟩)
    rwa [same] at taken
  · intro owns
    refine (holds.insertAll [name]).unique holds fun position owner => ?_
    rw [lastClaims_concat, ← holds.owned]
    by_cases claims : Claims hash replicas name position
    · simp [claims, owns position claims, eq_comm]
    · simp [claims]

end Holds

/-- Placing names twice in a row makes the same ring as placing them once, whatever was placed
before. A name that is on the ring already adds no position when it is placed again. The ring stays
as it is exactly if every position that the name claims belongs to it; otherwise the positions whose
owner changes are exactly those that the name claims and that belong to a name placed after it, and
the name owns them again. -/
theorem name_takes_back_what_it_lost (hash : Hash) (replicas : Nat) (calls : List (List String)) :
    let names := calls.flatten
    let ring := calls.foldl insertAll (empty hash replicas)
    (∀ added, (ring.insertAll added).insertAll added = ring.insertAll added) ∧
    ∀ name ∈ names,
      let again := ring.insertAll [name]
      again.positions = ring.positions ∧
      (again = ring ↔ ∀ position : UInt32, Claims hash replicas name position →
        ring.owners[position]? = some name) ∧
      (∀ position : UInt32, again.owners[position]? ≠ ring.owners[position]? ↔
        ∃ later, Overtaken hash replicas names name position later) ∧
      ∀ position : UInt32, again.owners[position]? ≠ ring.owners[position]? →
        again.owners[position]? = some name := by
  intro names ring
  have holds : ring.Holds hash replicas names := (holds_empty hash replicas).foldl_insertAll calls
  refine ⟨holds.insertAll_insertAll, fun name mem => ?_⟩
  intro again
  have isAgain : again = ring.insertAll [name] := rfl
  rw [isAgain]
  have sameNames : ∀ listed, listed ∈ names ++ [name] ↔ listed ∈ names := by
    intro listed
    simp only [List.mem_append, List.mem_singleton, or_iff_left_iff_imp]
    rintro rfl
    exact mem
  refine ⟨(holds.insertAll [name]).positions_eq holds sameNames, holds.insert_eq_self_iff name,
    fun position => holds.lookup_insert_ne_iff mem, fun position changed => ?_⟩
  obtain ⟨later, overtaken⟩ := (holds.lookup_insert_ne_iff mem).mp changed
  exact (holds.lookup_insert name position name).mpr (.inl ⟨rfl, overtaken.claims⟩)

/-- Of two names that meet at a position the first one takes it back, and then the second one. The
third name has lost nothing. -/
theorem first_name_takes_position_back :
    let hash : Hash := fun octets => UInt32.ofNat octets.length
    let names := ["ab", "ba", "c"]
    let ring := [names].foldl insertAll (empty hash 1)
    let again := ring.insertAll ["ab"]
    ("ab" ∈ [names].flatten ∧ "c" ∈ [names].flatten) ∧
      ring.owners[(3 : UInt32)]? = some "ba" ∧ again.owners[(3 : UInt32)]? = some "ab" ∧
      again.positions = ring.positions ∧ again ≠ ring ∧
      again.insertAll ["ab"] = again ∧ ring.insertAll ["c"] = ring := by
  intro hash names
  have claims : ∀ name position,
      Claims hash 1 name position ↔ hash (Utf8.encode ("0" ++ name)) = position := by
    intro name position
    have zero : Nat.repr 0 = "0" := by decide
    simp [Claims, zero]
  have first : hash (Utf8.encode "0ab") = 3 := by decide +kernel
  have second : hash (Utf8.encode "0ba") = 3 := by decide +kernel
  have third : hash (Utf8.encode "0c") = 2 := by decide +kernel
  have lastAtTwo : LastClaims hash 1 names 2 "c" :=
    ⟨["ab", "ba"], [], rfl, (claims "c" 2).mpr third, List.forall_mem_nil _⟩
  have lastAtThree : LastClaims hash 1 names 3 "ba" := by
    refine ⟨["ab"], ["c"], rfl, (claims "ba" 3).mpr second, fun other listed => ?_⟩
    simp [List.mem_singleton.mp listed, claims, third]
  have overtaken : Overtaken hash 1 names "ab" 3 "ba" :=
    lastAtThree.overtaken ((claims "ab" 3).mpr first) (by decide) (by decide)
  have holds := (holds_empty hash 1).foldl_insertAll [names]
  obtain ⟨twice, placed⟩ := name_takes_back_what_it_lost hash 1 [names]
  generalize [names].foldl insertAll (empty hash 1) = ring at holds twice placed
  obtain ⟨samePositions, _, takes, gives⟩ := placed "ab" (by decide)
  obtain ⟨_, stays, _, _⟩ := placed "c" (by decide)
  have changed := (takes 3).mpr ⟨"ba", overtaken⟩
  refine ⟨⟨by decide, by decide⟩, (holds.owned _ _).mpr lastAtThree, gives 3 changed,
    samePositions, fun same => changed (congrArg (·.owners[(3 : UInt32)]?) same), twice ["ab"],
    stays.mpr fun position own => ?_⟩
  obtain rfl : 2 = position := third.symm.trans ((claims "c" position).mp own)
  exact (holds.owned _ _).mpr lastAtTwo

end RingCache.Ring
