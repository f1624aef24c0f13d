import RingCache.Proofs.Ring.Claims

/-!
# Rings of the same names

Which positions are claimed depends on which names there are, and not on their order or on how
often each is there (`claimed_congr`). The order only decides who owns a position that several names
claim. A position that one name claims alone belongs to this name in every ring that has it
(`SoleClaims.owns`), and so do the keys whose home it is. So rings of the same names agree on every
key unless two names meet at its home (`rings_differ_only_where_names_meet`).
-/

namespace RingCache.Ring

/-- Whether a name claims a position that no other one of the names claims. -/
def SoleClaims (hash : Hash) (replicas : Nat) (names : List String) (position : UInt32)
    (name : String) : Prop :=
  name ∈ names ∧ Claims hash replicas name position ∧
    ∀ other ∈ names, Claims hash replicas other position → other = name

variable {hash : Hash} {replicas : Nat} {names others : List String} {ring : Ring}
  {key name : String} {position : UInt32}

/-- The same names claim the same positions. -/
theorem claimed_congr (same : ∀ name, name ∈ names ↔ name ∈ others) :
    Claimed hash replicas names = Claimed hash replicas others := by
  funext position
  simp only [Claimed, same]

theorem SoleClaims.congr (same : ∀ name, name ∈ names ↔ name ∈ others)
    (sole : SoleClaims hash replicas names position name) :
    SoleClaims hash replicas others position name := by
  obtain ⟨mem, claims, alone⟩ := sole
  exact ⟨(same name).mp mem, claims, fun other listed => alone other ((same other).mpr listed)⟩

/-- Who owns a position is one of the names and claims it. -/
theorem LastClaims.claims (owns : LastClaims hash replicas names position name) :
    name ∈ names ∧ Claims hash replicas name position := by
  obtain ⟨front, back, rfl, claims, _⟩ := owns
  exact ⟨List.mem_append_right _ List.mem_cons_self, claims⟩

/-- Who claims a position alone owns it, wherever it stands among the names. -/
theorem SoleClaims.owns (sole : SoleClaims hash replicas names position name) :
    LastClaims hash replicas names position name := by
  obtain ⟨mem, claims, alone⟩ := sole
  obtain ⟨owner, isOwner⟩ := claimed_iff.mp ⟨name, mem, claims⟩
  obtain ⟨listed, alsoClaims⟩ := isOwner.claims
  exact alone owner listed alsoClaims ▸ isOwner

namespace Holds

/-- A key whose home one name claims alone belongs to this name. -/
theorem owner?_of_sole (holds : ring.Holds hash replicas names)
    (home : Home (Claimed hash replicas names) (hash (Utf8.encode key)) position)
    (sole : SoleClaims hash replicas names position name) : ring.owner? key = some name :=
  (holds.owner?_eq_some_iff key).mpr ⟨position, home, sole.owns⟩

/-- Rings of the same names have the same positions. -/
theorem positions_eq {other : Ring} (holds : ring.Holds hash replicas names)
    (otherHolds : other.Holds hash replicas others)
    (same : ∀ name, name ∈ names ↔ name ∈ others) :
    ring.positions = other.positions := by
  refine Array.toList_inj.mp (holds.ascends.eq_of_mem_iff otherHolds.ascends fun position => ?_)
  rw [Array.mem_toList_iff, Array.mem_toList_iff, holds.mem_positions_iff,
    otherHolds.mem_positions_iff, claimed_congr same]

end Holds

/-- Two rings with the same hash and the same replicas, on which the same names were placed in any
order and as often as one likes, have the same positions. If the home of a key is claimed by one
name alone, the key belongs to this name on both rings. So if no two names claim one position,
every key has the same owner on both, or none on either. -/
theorem rings_differ_only_where_names_meet (hash : Hash) (replicas : Nat)
    (names others : List String) (same : ∀ name, name ∈ names ↔ name ∈ others) :
    let ring := (empty hash replicas).insertAll names
    let other := (empty hash replicas).insertAll others
    ring.positions = other.positions ∧
    (∀ key position name,
      Home (· ∈ ring.positions) (hash (Utf8.encode key)) position →
      SoleClaims hash replicas names position name →
        ring.owner? key = some name ∧ other.owner? key = some name) ∧
    ((∀ first ∈ names, ∀ second ∈ names, ∀ position, Claims hash replicas first position →
        Claims hash replicas second position → first = second) →
      ∀ key, ring.owner? key = other.owner? key) := by
  intro ring other
  have holds : ring.Holds hash replicas names := (holds_empty hash replicas).insertAll names
  have otherHolds : other.Holds hash replicas others := (holds_empty hash replicas).insertAll others
  have agree : ∀ {key position name},
      Home (Claimed hash replicas names) (hash (Utf8.encode key)) position →
      SoleClaims hash replicas names position name →
        ring.owner? key = some name ∧ other.owner? key = some name := by
    intro key position name home sole
    exact ⟨holds.owner?_of_sole home sole,
      otherHolds.owner?_of_sole (claimed_congr same ▸ home) (sole.congr same)⟩
  refine ⟨holds.positions_eq otherHolds same, fun key position name home sole => ?_,
    fun apart key => ?_⟩
  · have positions : (· ∈ ring.positions) = Claimed hash replicas names :=
      funext fun position => propext (holds.mem_positions_iff position)
    exact agree (positions ▸ home) sole
  · cases found : ring.owner? key with
    | none =>
        have unclaimed := (holds.owner?_eq_none_iff key).mp found
        rw [claimed_congr same] at unclaimed
        exact ((otherHolds.owner?_eq_none_iff key).mpr unclaimed).symm
    | some owner =>
        obtain ⟨position, home, owns⟩ := (holds.owner?_eq_some_iff key).mp found
        obtain ⟨mem, claims⟩ := owns.claims
        have sole : SoleClaims hash replicas names position owner :=
          ⟨mem, claims, fun name listed alsoClaims =>
            apart name listed owner mem position alsoClaims claims⟩
        exact (agree home sole).2.symm

/-- Two names that meet at a position change places there, and nowhere else. -/
theorem meeting_names_move_only_their_keys :
    let hash : Hash := fun octets => UInt32.ofNat octets.length
    let names := ["ab", "ba", "c"]
    let others := ["c", "ba", "ab", "c"]
    let ring := (empty hash 1).insertAll names
    let other := (empty hash 1).insertAll others
    (∀ name, name ∈ names ↔ name ∈ others) ∧
      ring.positions = other.positions ∧
      (ring.owner? "c" = some "c" ∧ other.owner? "c" = some "c") ∧
      ring.owner? "key" = some "ba" ∧ other.owner? "key" = some "ab" := by
  intro hash names others ring other
  have same : ∀ name, name ∈ names ↔ name ∈ others := by
    simp only [names, others, List.mem_cons, List.not_mem_nil, or_false]
    tauto
  have holds : ring.Holds hash 1 names := (holds_empty hash 1).insertAll names
  have otherHolds : other.Holds hash 1 others := (holds_empty hash 1).insertAll others
  have claims : ∀ name position,
      Claims hash 1 name position ↔ hash (Utf8.encode ("0" ++ name)) = position := by
    intro name position
    have zero : Nat.repr 0 = "0" := by decide
    simp [Claims, zero]
  have first : hash (Utf8.encode "0ab") = 3 := by decide +kernel
  have second : hash (Utf8.encode "0ba") = 3 := by decide +kernel
  have third : hash (Utf8.encode "0c") = 2 := by decide +kernel
  have claimed : ∀ position, Claimed hash 1 names position ↔ 3 = position ∨ 2 = position := by
    intro position
    simp [Claimed, claims, names, first, second, third]
  have low : Home (· ∈ ring.positions) (hash (Utf8.encode "c")) 2 := by
    have positions : (· ∈ ring.positions) = Claimed hash 1 names :=
      funext fun position => propext (holds.mem_positions_iff position)
    rw [positions]
    refine ⟨(claimed 2).mpr (.inr rfl), .inl ⟨by decide +kernel, fun other listed _ => ?_⟩⟩
    rcases (claimed other).mp listed with rfl | rfl
    · decide
    · decide
  have sole : SoleClaims hash 1 names 2 "c" := by
    refine ⟨by decide, (claims "c" 2).mpr third, fun other listed alsoClaims => ?_⟩
    rw [claims] at alsoClaims
    revert other
    decide +kernel
  have high : Home (Claimed hash 1 names) (hash (Utf8.encode "key")) 3 := by
    have start : hash (Utf8.encode "key") = 3 := by decide +kernel
    rw [start]
    exact ⟨(claimed 3).mpr (.inl rfl), .inl ⟨UInt32.le_refl 3, fun _ _ behind => behind⟩⟩
  have apart : ∀ other ∈ ["c"], ¬ Claims hash 1 other 3 := by
    intro other listed
    simp [List.mem_singleton.mp listed, claims, third]
  obtain ⟨samePositions, agree, _⟩ := rings_differ_only_where_names_meet hash 1 names others same
  refine ⟨same, samePositions, agree "c" 2 "c" low sole, ?_, ?_⟩
  · exact (holds.owner?_eq_some_iff "key").mpr
      ⟨3, high, ["ab"], ["c"], rfl, (claims "ba" 3).mpr second, apart⟩
  · exact (otherHolds.owner?_eq_some_iff "key").mpr
      ⟨3, claimed_congr same ▸ high, ["c", "ba"], ["c"], rfl, (claims "ab" 3).mpr first, apart⟩

end RingCache.Ring
