import Mathlib.Data.Set.Card
import RingCache.Proofs.Ascending
import RingCache.Proofs.Ring.Positions

/-!
# Who owns a key

A position is owned by the last name that claims it (`LastClaims`), and a key by
the owner of the first claimed position at or after its hash, or of the lowest one
if there is none (`Home`). `Holds` says that the positions and the owners of a ring
are those of names in this sense; placing more names keeps it (`Holds.insertAll`), so
that a ring holds all the names that were ever placed, in order, however they were
split up. A ring is known by the names that it holds (`Holds.unique`).
-/

namespace RingCache.Ring

/-- Whether a name claims a position. -/
def Claims (hash : Hash) (replicas : Nat) (name : String) (position : UInt32) : Prop :=
  ∃ replica < replicas, hash (Utf8.encode (toString replica ++ name)) = position

/-- Whether one of the names claims a position. -/
def Claimed (hash : Hash) (replicas : Nat) (names : List String) (position : UInt32) : Prop :=
  ∃ name ∈ names, Claims hash replicas name position

/-- Whether a name claims a position and no name after it does. -/
def LastClaims (hash : Hash) (replicas : Nat) (names : List String) (position : UInt32)
    (owner : String) : Prop :=
  ∃ front back, names = front ++ owner :: back ∧ Claims hash replicas owner position ∧
    ∀ other ∈ back, ¬ Claims hash replicas other position

/-- Whether the two tables of a ring are those of names that were placed one after the other. -/
structure Holds (ring : Ring) (hash : Hash) (replicas : Nat) (names : List String) : Prop where
  hash_eq : ring.hash = hash
  replicas_eq : ring.replicas = replicas
  /-- The positions ascend, each once. -/
  ascends : ring.positions.toList.Pairwise (· < ·)
  /-- They are those that the names claim. -/
  mem_positions_iff : ∀ position,
    position ∈ ring.positions ↔ Claimed hash replicas names position
  /-- The owner of a position is the last name that claims it. -/
  owned : ∀ position owner,
    ring.owners[position]? = some owner ↔ LastClaims hash replicas names position owner

variable {hash : Hash} {replicas : Nat} {names others : List String} {ring other : Ring}
  {name owner : String} {position : UInt32}

/-! ## Last claims -/

theorem not_lastClaims_nil : ¬ LastClaims hash replicas [] position owner := by
  rintro ⟨front, back, split, _⟩
  simp at split

/-- The last name owns what it claims, and nothing else. -/
theorem lastClaims_concat :
    LastClaims hash replicas (names ++ [name]) position owner ↔
      (owner = name ∧ Claims hash replicas name position) ∨
        (¬ Claims hash replicas name position ∧
          LastClaims hash replicas names position owner) := by
  constructor
  · rintro ⟨front, back, split, claims, last⟩
    induction back using List.reverseRecOn with
    | nil =>
        obtain ⟨_, isOwner⟩ := List.append_inj' split rfl
        cases isOwner
        exact .inl ⟨rfl, claims⟩
    | append_singleton back other _ =>
        rw [← List.cons_append, ← List.append_assoc] at split
        obtain ⟨isNames, isOther⟩ := List.append_inj' split rfl
        cases isOther
        exact .inr ⟨last name (by simp), front, back, isNames, claims,
          fun other mem => last other (List.mem_append_left _ mem)⟩
  · rintro (⟨rfl, claims⟩ | ⟨unclaimed, front, back, rfl, claims, last⟩)
    · exact ⟨names, [], rfl, claims, nofun⟩
    · refine ⟨front, back ++ [name], by simp, claims, fun other mem => ?_⟩
      rcases List.mem_append.mp mem with before | isName
      · exact last other before
      · rw [List.mem_singleton.mp isName]
        exact unclaimed

/-- A position has an owner exactly if it is claimed. -/
theorem claimed_iff :
    Claimed hash replicas names position ↔
      ∃ owner, LastClaims hash replicas names position owner := by
  constructor
  · rintro ⟨name, mem, claims⟩
    induction names using List.reverseRecOn with
    | nil => cases mem
    | append_singleton names last inductionHypothesis =>
        by_cases lastToo : Claims hash replicas last position
        · exact ⟨last, lastClaims_concat.mpr (.inl ⟨rfl, lastToo⟩)⟩
        · rcases List.mem_append.mp mem with before | isLast
          · obtain ⟨owner, owns⟩ := inductionHypothesis before
            exact ⟨owner, lastClaims_concat.mpr (.inr ⟨lastToo, owns⟩)⟩
          · exact absurd (List.mem_singleton.mp isLast ▸ claims) lastToo
  · rintro ⟨owner, front, back, split, claims, _⟩
    exact ⟨owner, split ▸ List.mem_append_right _ List.mem_cons_self, claims⟩

theorem claimed_append :
    Claimed hash replicas (names ++ others) position ↔
      Claimed hash replicas names position ∨ Claimed hash replicas others position := by
  simp [Claimed, or_and_right, exists_or]

/-- Names own what they claim of the positions, and those before them own the rest. -/
theorem lastClaims_append :
    LastClaims hash replicas (names ++ others) position owner ↔
      LastClaims hash replicas others position owner ∨
        (¬ Claimed hash replicas others position ∧
          LastClaims hash replicas names position owner) := by
  induction others using List.reverseRecOn with
  | nil => simp [not_lastClaims_nil, Claimed]
  | append_singleton others last inductionHypothesis =>
      have claimedLast : Claimed hash replicas [last] position ↔
          Claims hash replicas last position := by simp [Claimed]
      rw [← List.append_assoc, lastClaims_concat, lastClaims_concat, claimed_append,
        inductionHypothesis, claimedLast]
      tauto

/-! ## Placing names -/

theorem mem_claimsOf {claim : UInt32 × String} :
    claim ∈ ring.claimsOf name ↔
      claim.2 = name ∧ Claims ring.hash ring.replicas name claim.1 := by
  rw [claimsOf, List.mem_map]
  constructor
  · rintro ⟨replica, listed, rfl⟩
    exact ⟨rfl, replica, List.mem_range.mp listed, rfl⟩
  · rintro ⟨rfl, replica, within, isPosition⟩
    exact ⟨replica, List.mem_range.mpr within, Prod.ext isPosition rfl⟩

/-- Among its own claims, a name owns all that it claims. -/
theorem latest?_claimsOf (name : String) (position : UInt32) :
    (Claims ring.hash ring.replicas name position ∧
        Ascending.latest? (ring.claimsOf name) position = some name) ∨
      (¬ Claims ring.hash ring.replicas name position ∧
        Ascending.latest? (ring.claimsOf name) position = none) := by
  by_cases claims : Claims ring.hash ring.replicas name position
  · have listed : (position, name) ∈ ring.claimsOf name := mem_claimsOf.mpr ⟨rfl, claims⟩
    obtain ⟨owner, found⟩ := Option.isSome_iff_exists.mp (Ascending.latest?_isSome listed)
    obtain rfl : owner = name := (mem_claimsOf.mp (Ascending.mem_of_latest? found)).1
    exact .inl ⟨claims, found⟩
  · refine .inr ⟨claims, Ascending.latest?_eq_none ?_⟩
    rintro claim mem rfl
    exact claims (mem_claimsOf.mp mem).2

/-- Among the claims of names, the last one of a position is that of its owner. -/
theorem latest?_claims :
    Ascending.latest? (names.flatMap ring.claimsOf) position = some owner ↔
      LastClaims ring.hash ring.replicas names position owner := by
  induction names using List.reverseRecOn with
  | nil => exact iff_of_false nofun not_lastClaims_nil
  | append_singleton names last inductionHypothesis =>
      rw [List.flatMap_append, List.flatMap_singleton, Ascending.latest?_append, lastClaims_concat,
        ← inductionHypothesis]
      rcases ring.latest?_claimsOf last position with ⟨claims, found⟩ | ⟨unclaimed, missing⟩
      · simp [claims, found, eq_comm]
      · simp [unclaimed, missing]

/-- Entering pairs in a table overrides what it has for their keys. -/
theorem getElem?_insertMany (owners : Std.ExtHashMap UInt32 String)
    (claims : List (UInt32 × String)) (position : UInt32) :
    (owners.insertMany claims)[position]? =
      (Ascending.latest? claims position).or owners[position]? := by
  rw [Std.ExtHashMap.getElem?_insertMany_list, Ascending.latest?,
    List.findSomeRev?_eq_findSome?_reverse, List.lookup_eq_findSome?]
  have flip (claim : UInt32 × String) : (position == claim.1) = (claim.1 == position) := BEq.comm
  simp only [flip]

/-- A ring without names holds none. -/
theorem holds_empty (hash : Hash) (replicas : Nat) :
    (empty hash replicas).Holds hash replicas [] where
  hash_eq := rfl
  replicas_eq := rfl
  ascends := List.Pairwise.nil
  mem_positions_iff position := by simp [empty, Claimed]
  owned position owner := by simp [empty, not_lastClaims_nil]

namespace Holds

/-- Names that are placed come after those that the ring holds, in order. -/
theorem insertAll (holds : ring.Holds hash replicas names) (others : List String) :
    (ring.insertAll others).Holds hash replicas (names ++ others) := by
  obtain ⟨rfl, rfl, ascends, mem_positions_iff, owned⟩ := holds
  refine ⟨rfl, rfl, ?_, fun position => ?_, fun position owner => ?_⟩
  · rw [Ring.insertAll, List.toList_toArray]
    exact eraseReps_ascends (List.pairwise_mergeSort' _ _)
  · rw [Ring.insertAll, List.mem_toArray, mem_eraseReps, List.mem_mergeSort, List.mem_append,
      Array.mem_toList_iff, mem_positions_iff, claimed_append]
    refine or_congr_right ?_
    simp [mem_claimsOf, Claimed]
  · rw [Ring.insertAll, getElem?_insertMany, Option.or_eq_some_iff, latest?_claims, owned,
      lastClaims_append, claimed_iff, Option.eq_none_iff_forall_ne_some]
    simp [latest?_claims]

/-- Names that are placed call after call come after one another. -/
theorem foldl_insertAll (holds : ring.Holds hash replicas names) (calls : List (List String)) :
    (calls.foldl Ring.insertAll ring).Holds hash replicas (names ++ calls.flatten) := by
  induction calls generalizing ring names with
  | nil => rwa [List.flatten_nil, List.append_nil]
  | cons first rest inductionHypothesis =>
      have next := inductionHypothesis (holds.insertAll first)
      rwa [List.append_assoc] at next

/-- Rings with the same hash and the same replicas are equal if their positions have the same
owners. -/
theorem unique (holds : ring.Holds hash replicas names) (also : other.Holds hash replicas others)
    (same : ∀ position owner, LastClaims hash replicas names position owner ↔
      LastClaims hash replicas others position owner) : ring = other := by
  have samePositions : ring.positions = other.positions := by
    refine Array.toList_inj.mp (holds.ascends.eq_of_mem_iff also.ascends fun position => ?_)
    rw [Array.mem_toList_iff, Array.mem_toList_iff, holds.mem_positions_iff,
      also.mem_positions_iff, claimed_iff, claimed_iff]
    exact exists_congr (same position)
  have sameOwners : ring.owners = other.owners := by
    refine Std.ExtHashMap.ext_getElem? fun position => Option.ext fun owner => ?_
    rw [holds.owned, also.owned, same]
  obtain ⟨_, _, _, _⟩ := ring
  obtain ⟨_, _, _, _⟩ := other
  obtain rfl := holds.hash_eq.trans also.hash_eq.symm
  obtain rfl := holds.replicas_eq.trans also.replicas_eq.symm
  obtain rfl := samePositions
  obtain rfl := sameOwners
  rfl

/-- The size of a ring is the number of positions that its names claim. -/
theorem size_eq (holds : ring.Holds hash replicas names) :
    ring.size = Set.ncard {position | Claimed hash replicas names position} := by
  have asList : {position | Claimed hash replicas names position} =
      ↑ring.positions.toList.toFinset := by
    rw [List.coe_toFinset]
    ext position
    simp [holds.mem_positions_iff]
  have differ : ring.positions.toList.Nodup := holds.ascends.imp UInt32.ne_of_lt
  rw [asList, Set.ncard_coe_finset, List.toFinset_card_of_nodup differ, Array.length_toList, size]

/-! ### Owners -/

/-- Every key of a ring with positions has an owner, the one of its home. -/
theorem owned_home (holds : ring.Holds hash replicas names) (filled : ring.positions.isEmpty = false)
    (key : String) :
    ∃ position owner, ring.owner? key = some owner ∧
      Home (Claimed hash replicas names) (hash (Utf8.encode key)) position ∧
        LastClaims hash replicas names position owner := by
  obtain rfl := holds.hash_eq
  have claimedEq : (· ∈ ring.positions) = Claimed ring.hash replicas names :=
    funext fun position => propext (holds.mem_positions_iff position)
  have inside : search (ring.hash (Utf8.encode key)) ring.positions % ring.positions.size <
      ring.positions.size := Nat.mod_lt _ (by simpa [Array.size_pos_iff] using filled)
  have found := Array.getElem?_eq_getElem inside
  have home := home_of_search holds.ascends _ found
  rw [claimedEq] at home
  obtain ⟨owner, owns⟩ := claimed_iff.mp home.1
  refine ⟨_, owner, ?_, home, owns⟩
  rw [owner?, if_neg (by simp [filled])]
  dsimp only
  rw [found, Option.bind_some]
  exact (holds.owned _ _).mpr owns

/-- A key has no owner exactly if no position is claimed. -/
theorem owner?_eq_none_iff (holds : ring.Holds hash replicas names) (key : String) :
    ring.owner? key = none ↔ ∀ position, ¬ Claimed hash replicas names position := by
  cases filled : ring.positions.isEmpty with
  | true =>
      rw [owner?, if_pos filled]
      simp [← holds.mem_positions_iff, Array.isEmpty_iff.mp filled]
  | false =>
      obtain ⟨position, owner, found, home, _⟩ := holds.owned_home filled key
      rw [found]
      exact iff_of_false nofun fun unclaimed => unclaimed position home.1

/-- The owner of a key is the owner of the home of its hash. -/
theorem owner?_eq_some_iff (holds : ring.Holds hash replicas names) (key : String) :
    ring.owner? key = some owner ↔
      ∃ position, Home (Claimed hash replicas names) (hash (Utf8.encode key)) position ∧
        LastClaims hash replicas names position owner := by
  cases filled : ring.positions.isEmpty with
  | true =>
      have nobody : ring.owner? key = none := by rw [owner?, if_pos filled]
      have unclaimed := (holds.owner?_eq_none_iff key).mp nobody
      rw [nobody]
      exact iff_of_false nofun fun ⟨position, home, _⟩ => unclaimed position home.1
  | false =>
      obtain ⟨position, other, found, home, owns⟩ := holds.owned_home filled key
      constructor
      · intro isOwner
        obtain rfl : other = owner := Option.some.inj (found.symm.trans isOwner)
        exact ⟨position, home, owns⟩
      · rintro ⟨otherPosition, otherHome, otherOwns⟩
        rw [← otherHome.unique home, ← holds.owned, (holds.owned _ _).mpr otherOwns] at owns
        rw [found, owns]

end Holds

/-- Placing no names on a ring without names makes no difference. -/
theorem insertAll_nil (hash : Hash) (replicas : Nat) :
    (empty hash replicas).insertAll [] = empty hash replicas :=
  ((holds_empty hash replicas).insertAll []).unique (holds_empty hash replicas) fun _ _ => Iff.rfl

/-- In a ring to which names were added call after call, the positions are exactly
those that some name claims, in ascending order, each once, and as many as its size
says; each belongs to the last name that claims it, in the order of the calls. A
key has no owner if there is no position, and else the owner of the first position
at or after its hash, or of the lowest position if all are before it. So only the
names count that were added, in order, and not how they were split into calls. -/
theorem owner_of_first_position_at_or_after (hash : Hash) (replicas : Nat)
    (calls : List (List String)) :
    let names := calls.flatten
    let ring := calls.foldl insertAll (empty hash replicas)
    ring.positions.toList.Pairwise (· < ·) ∧
      (∀ position, position ∈ ring.positions ↔ Claimed hash replicas names position) ∧
      ring.size = Set.ncard {position | Claimed hash replicas names position} ∧
      (∀ position owner, ring.owners[position]? = some owner ↔
        LastClaims hash replicas names position owner) ∧
      (∀ position, ring.owners[position]?.isSome ↔ Claimed hash replicas names position) ∧
      (∀ key, ring.owner? key = none ↔ ∀ position, ¬ Claimed hash replicas names position) ∧
      (∀ key owner, ring.owner? key = some owner ↔
        ∃ position, Home (Claimed hash replicas names) (hash (Utf8.encode key)) position ∧
          LastClaims hash replicas names position owner) ∧
      (ring.isEmpty = false → ∀ key, (ring.owner? key).isSome) ∧
      ∀ others : List (List String), others.flatten = names →
        others.foldl insertAll (empty hash replicas) = ring := by
  intro names ring
  have holds : ring.Holds hash replicas names := (holds_empty hash replicas).foldl_insertAll calls
  refine ⟨holds.ascends, holds.mem_positions_iff, holds.size_eq, holds.owned, ?_,
    holds.owner?_eq_none_iff, fun key owner => holds.owner?_eq_some_iff key, ?_, ?_⟩
  · intro position
    rw [claimed_iff, Option.isSome_iff_exists]
    exact exists_congr fun owner => holds.owned position owner
  · intro filled key
    obtain ⟨_, owner, found, _⟩ := holds.owned_home filled key
    rw [found]
    rfl
  · intro others same
    have otherHolds := (holds_empty hash replicas).foldl_insertAll others
    rw [List.nil_append, same] at otherHolds
    exact otherHolds.unique holds fun _ _ => Iff.rfl

end RingCache.Ring
