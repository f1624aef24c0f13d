import RingCache.Proofs.Recency.Prefixes

/-!
# How often a key occurs

In the pairs of a store a key occurs once, or not at all (`Store.Arranged.occurs_eq`). A write
neither loses a pair nor makes one up: what it keeps, what it drops and what it writes over are the
pairs that were there, and the new one (`Pairs.put_perm`).
-/

namespace RingCache.Recency

variable {V : Type}

namespace Pairs

/-- How often a key occurs. -/
def occurs (pairs : Pairs V) (key : String) : Nat :=
  pairs.countP fun pair => pair.1 == key

/-- The pairs of one key. -/
def only (pairs : Pairs V) (key : String) : Pairs V :=
  pairs.filter fun pair => pair.1 == key

variable {pairs : Pairs V} {key : String}

@[simp] theorem occurs_append (front back : Pairs V) (key : String) :
    occurs (front ++ back) key = front.occurs key + back.occurs key :=
  List.countP_append

theorem occurs_perm {others : Pairs V} (perm : pairs.Perm others) (key : String) :
    pairs.occurs key = others.occurs key :=
  perm.countP_eq _

/-- A key that no pair has does not occur. -/
theorem occurs_absent (absent : ∀ pair ∈ pairs, pair.1 ≠ key) : pairs.occurs key = 0 :=
  List.countP_eq_zero.mpr fun pair mem => by simpa using absent pair mem

/-- A key that one pair has occurs once. -/
theorem occurs_split {front back : Pairs V} {value : V}
    (others : ∀ pair ∈ front ++ back, pair.1 ≠ key) :
    occurs (front ++ (key, value) :: back) key = 1 := by
  have apart := occurs_absent others
  rw [occurs_append] at apart ⊢
  have counted : occurs ((key, value) :: back) key = back.occurs key + 1 :=
    List.countP_cons_of_pos (beq_self_eq_true key)
  omega

/-- A key occurs as often as it is listed among the keys. -/
theorem occurs_eq_count (pairs : Pairs V) (key : String) :
    pairs.occurs key = (pairs.map Prod.fst).count key := by
  rw [occurs, List.count_eq_countP, List.countP_map]
  rfl

/-- Pairs are of a key, or of the others. -/
theorem only_perm (pairs : Pairs V) (key : String) :
    (pairs.only key ++ pairs.without key).Perm pairs :=
  List.filter_append_perm _ pairs

/-- What a write keeps and what it drops, with the pair that it writes over, are the pairs that
were there and the new one. -/
theorem put_perm [HasSize V] (pairs : Pairs V) (budget : Nat) (key : String) (value : V) :
    ((pairs.put budget key value).1 ++ (pairs.put budget key value).2 ++ pairs.only key).Perm
      ((key, value) :: pairs) := by
  obtain ⟨rest, split⟩ := fitting_isPrefix ((key, value) :: pairs.without key) budget
  have dropped : (pairs.put budget key value).2 = rest.reverse := by
    rw [put]
    dsimp only
    generalize fitting ((key, value) :: pairs.without key) budget = kept at split
    rw [← split, List.drop_left]
  have keepsOthers : ((pairs.put budget key value).1 ++ (pairs.put budget key value).2).Perm
      ((key, value) :: pairs.without key) := by
    rw [dropped, ← split]
    exact (List.reverse_perm rest).append_left _
  refine (keepsOthers.append_right _).trans (List.Perm.cons _ ?_)
  exact List.perm_append_comm.trans (only_perm pairs key)

end Pairs

namespace Store.Arranged

variable [HasSize V] {store : Store V} {order : List Nat}

/-- A key occurs once if the store has it, and else not at all. -/
theorem occurs_eq (arranged : store.Arranged order) (key : String) :
    Pairs.occurs store.entries key = (store.contains key).toNat := by
  rw [Store.contains, Std.HashMap.contains_eq_isSome_getElem?]
  cases indexed : store.index[key]? with
  | none => exact Pairs.occurs_absent (arranged.ne_of_unindexed indexed)
  | some place =>
      obtain ⟨front, back, slot, _, _, _, split, others⟩ := arranged.split indexed
      rw [split]
      exact Pairs.occurs_split others

/-- The keys of a store differ. -/
theorem keys_nodup (arranged : store.Arranged order) : (store.entries.map Prod.fst).Nodup := by
  refine List.nodup_iff_count_le_one.mpr fun key => ?_
  rw [← Pairs.occurs_eq_count, arranged.occurs_eq]
  exact Bool.toNat_le _

end Store.Arranged

end RingCache.Recency
