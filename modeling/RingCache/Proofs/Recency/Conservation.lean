import Mathlib.Algebra.Order.Group.Multiset
import Mathlib.Tactic.Abel
import RingCache.Proofs.Recency.Touches

/-!
# Where the pairs of a run are

Every pair that was written is in one place: it is still in the store, has been reported, or was
written over while its key was there. `Store.pairs_are_kept_reported_or_overwritten` is the main
statement, for every run on an empty store.

The changes of a run are its writes and its reports in the order in which they happen
(`Store.history`). A value stands for a key when the last change of the key is the write of this
value. `Recorded` is the invariant: the pairs of a store are those that stand, and what was reported
stood until then. Like the order of the last touches it holds at every moment of an operation, and
says nothing of slots and links.
-/

namespace RingCache.Recency

variable {V : Type}

/-! ## Changes -/

/-- A change to the pairs of a store. -/
inductive Change (V : Type) where
  /-- A pair is written. -/
  | written (pair : String × V)
  /-- A pair is removed and reported. -/
  | reported (pair : String × V)

namespace Change

/-- The pair that is written or reported. -/
def pair : Change V → String × V
  | .written pair => pair
  | .reported pair => pair

/-- The pair, if it is written. -/
def written? : Change V → Option (String × V)
  | .written pair => some pair
  | .reported _ => none

/-- The pair, if it is reported. -/
def reported? : Change V → Option (String × V)
  | .written _ => none
  | .reported pair => some pair

end Change

/-- The last change of a key is the write of this value. -/
def Stands (history : List (Change V)) (key : String) (value : V) : Prop :=
  ∃ before after, history = before ++ .written (key, value) :: after ∧
    ∀ change ∈ after, change.pair.1 ≠ key

section Changes

variable {history : List (Change V)} {change last : Change V} {key : String} {value : V}

/-- A change of a longer history is its last one, or one of the history before. -/
theorem split_concat {before after : List (Change V)} :
    history ++ [last] = before ++ change :: after ↔
      (after = [] ∧ history = before ∧ last = change) ∨
        ∃ rest, after = rest ++ [last] ∧ history = before ++ change :: rest := by
  constructor
  · intro split
    rcases List.eq_nil_or_concat' after with rfl | ⟨rest, other, rfl⟩
    · obtain ⟨sameHistory, sameChange⟩ := List.append_inj' split rfl
      exact .inl ⟨rfl, sameHistory, by simpa using sameChange⟩
    · rw [← List.cons_append, ← List.append_assoc] at split
      obtain ⟨sameHistory, sameChange⟩ := List.append_inj' split rfl
      obtain rfl : last = other := by simpa using sameChange
      exact .inr ⟨rest, rfl, sameHistory⟩
  · rintro (⟨rfl, rfl, rfl⟩ | ⟨rest, rfl, rfl⟩)
    · rfl
    · simp

/-- One more change makes a value stand, or leaves what stands for other keys. -/
theorem stands_concat : Stands (history ++ [change]) key value ↔
    change = .written (key, value) ∨ change.pair.1 ≠ key ∧ Stands history key value := by
  constructor
  · rintro ⟨before, after, split, others⟩
    rcases split_concat.mp split with ⟨-, -, isWrite⟩ | ⟨rest, rfl, earlier⟩
    · exact .inl isWrite
    · exact .inr ⟨others change (by simp), before, rest, earlier,
        fun other mem => others other (by simp [mem])⟩
  · rintro (rfl | ⟨differs, before, after, rfl, others⟩)
    · exact ⟨history, [], rfl, by simp⟩
    · refine ⟨before, after ++ [change], by simp, fun other mem => ?_⟩
      rcases List.mem_append.mp mem with earlier | isLast
      · exact others other earlier
      · rwa [List.mem_singleton.mp isLast]

/-- The pairs are what stands after the changes, and whatever was reported stood until then. -/
structure Recorded (pairs : Pairs V) (history : List (Change V)) : Prop where
  /-- The pairs are those that stand. -/
  stands : ∀ key value, (key, value) ∈ pairs ↔ Stands history key value
  /-- A report gives the value that stands. -/
  current : ∀ before pair after, history = before ++ .reported pair :: after →
    Stands before pair.1 pair.2

namespace Recorded

variable {pairs others : Pairs V}

theorem nil : Recorded ([] : Pairs V) [] where
  stands key value := by simp [Stands]
  current before pair after split := by simp at split

/-- The order of the pairs does not matter. -/
theorem perm (recorded : Recorded pairs history) (same : others.Perm pairs) :
    Recorded others history where
  stands key value := same.mem_iff.trans (recorded.stands key value)
  current := recorded.current

/-- A written pair stands in place of the one of its key. -/
theorem written (recorded : Recorded pairs history) (key : String) (value : V) :
    Recorded ((key, value) :: pairs.without key) (history ++ [.written (key, value)]) where
  stands other otherValue := by
    rw [stands_concat, ← recorded.stands other otherValue]
    simp only [Pairs.without, List.mem_cons, List.mem_filter, Change.written.injEq, Change.pair,
      Prod.mk.injEq, bne_iff_ne]
    grind
  current before pair after split := by
    rcases split_concat.mp split with ⟨-, -, isWrite⟩ | ⟨rest, -, earlier⟩
    · cases isWrite
    · exact recorded.current before pair rest earlier

/-- A pair that is removed and reported has stood, and its key has no other. -/
theorem reported {pair : String × V} (recorded : Recorded (pairs ++ [pair]) history)
    (apart : ∀ other ∈ pairs, other.1 ≠ pair.1) :
    Recorded pairs (history ++ [.reported pair]) where
  stands key value := by
    have stands := recorded.stands key value
    rw [List.mem_append, List.mem_singleton] at stands
    rw [stands_concat, ← stands]
    constructor
    · intro mem
      exact .inr ⟨(apart _ mem).symm, .inl mem⟩
    · rintro (isWrite | ⟨differs, mem | rfl⟩)
      · cases isWrite
      · exact mem
      · exact absurd rfl differs
  current before other after split := by
    rcases split_concat.mp split with ⟨-, rfl, isReport⟩ | ⟨rest, -, earlier⟩
    · cases isReport
      exact (recorded.stands pair.1 pair.2).mp (by simp)
    · exact recorded.current before other rest earlier

end Recorded

end Changes

/-! ## Keys that differ -/

namespace Pairs

variable {pairs : Pairs V} {key : String} {value : V}

/-- Where keys differ, a key leads to the value of its pair. -/
theorem lookup_iff_mem (differ : (pairs.map Prod.fst).Nodup) :
    pairs.lookup key = some value ↔ (key, value) ∈ pairs := by
  rw [List.lookup_eq_some_iff]
  constructor
  · rintro ⟨front, back, rfl, _⟩
    simp
  · intro mem
    obtain ⟨front, back, rfl⟩ := List.append_of_mem mem
    refine ⟨front, back, rfl, fun pair inFront => bne_iff_ne.mpr ?_⟩
    rintro rfl
    rw [List.map_append, List.map_cons, List.nodup_middle] at differ
    exact (List.nodup_cons.mp differ).1 (by simp [List.mem_map_of_mem inFront])

/-- The pairs of one key are all where the key is, and none where another key is. -/
theorem occurs_only (pairs : Pairs V) (key other : String) :
    occurs (pairs.only key) other = if key = other then pairs.occurs other else 0 := by
  rw [occurs, only, List.countP_filter]
  split
  next same => simp [same, occurs]
  next differs =>
    refine List.countP_eq_zero.mpr fun pair _ => ?_
    simp only [Bool.and_eq_true, beq_iff_eq, not_and]
    rintro rfl
    exact fun same => differs same.symm

end Pairs

/-! ## The changes of a run -/

/-- The pair that an operation writes. -/
def Operation.written? : Operation V → Option (String × V)
  | .put key value => some (key, value)
  | .get _ => none
  | .contains _ => none
  | .popOldest => none
  | .list => none

namespace Store

variable [HasSize V] {start store next : Store V} {operations : List (Operation V)}
  {operation : Operation V} {key : String} {value : V}

/-- What an operation writes and then reports. -/
def changes (store : Store V) (operation : Operation V) : List (Change V) :=
  operation.written?.toList.map .written ++ (store.perform operation).2.2.map .reported

/-- The pairs that an operation writes over: it gives a value to a key that has one. -/
def overwrites (store : Store V) (operation : Operation V) : Pairs V :=
  operation.written?.elim [] fun pair => Pairs.only store.entries pair.1

/-- What the operations of a run give one after the other. -/
def along {α : Type} (part : Store V → Operation V → List α) (store : Store V) :
    List (Operation V) → List α
  | [] => []
  | operation :: rest => part store operation ++ along part (store.perform operation).1 rest

/-- The writes and the reports of a run, in the order in which they happen. -/
def history (store : Store V) (operations : List (Operation V)) : List (Change V) :=
  store.along changes operations

/-- The pairs that a run writes over. -/
def overwritten (store : Store V) (operations : List (Operation V)) : Pairs V :=
  store.along overwrites operations

theorem along_concat {α : Type} (part : Store V → Operation V → List α) :
    start.along part (operations ++ [operation]) =
      start.along part operations ++ part (start.after operations) operation := by
  induction operations generalizing start with
  | nil => simp [along, after]
  | cons first rest inductionHypothesis =>
      rw [List.cons_append, along, along, inductionHypothesis, List.append_assoc]
      rfl

theorem history_concat : start.history (operations ++ [operation]) =
    start.history operations ++ (start.after operations).changes operation :=
  along_concat changes

theorem overwritten_concat : start.overwritten (operations ++ [operation]) =
    start.overwritten operations ++ (start.after operations).overwrites operation :=
  along_concat overwrites

theorem written?_changes (store : Store V) (operation : Operation V) :
    (store.changes operation).filterMap Change.written? = operation.written?.toList := by
  simp [changes, List.filterMap_map, Function.comp_def, Change.written?]

theorem reported?_changes (store : Store V) (operation : Operation V) :
    (store.changes operation).filterMap Change.reported? = (store.perform operation).2.2 := by
  simp [changes, List.filterMap_map, Function.comp_def, Change.reported?]

theorem written?_history (operations : List (Operation V)) :
    (start.history operations).filterMap Change.written? =
      operations.filterMap Operation.written? := by
  induction operations generalizing start with
  | nil => rfl
  | cons operation rest inductionHypothesis =>
      rw [history, along, List.filterMap_append, written?_changes, List.filterMap_cons]
      have later : (along changes (start.perform operation).1 rest).filterMap Change.written? =
          rest.filterMap Operation.written? := inductionHypothesis
      rw [later]
      cases operation.written? <;> rfl

/-! ## One operation -/

/-- Reading moves a pair. -/
theorem WellFormed.get?_perm (wellFormed : store.WellFormed)
    (read : store.get? key = some (value, next)) : next.entries.Perm store.entries := by
  obtain ⟨getEq, _⟩ := wellFormed.get?_eq key
  obtain ⟨order, arranged⟩ := wellFormed
  cases indexed : store.index[key]? with
  | none => simp [Store.get?, indexed] at read
  | some place =>
      obtain ⟨front, back, slot, _, _, _, split, others⟩ := arranged.split indexed
      rw [read, split, Pairs.get?_split others, Option.map_some] at getEq
      rw [← (Prod.mk.inj (Option.some.inj getEq)).2, split]
      exact List.perm_middle.symm

/-- Reading a key gives the value of its pair. -/
theorem WellFormed.get?_iff_mem (wellFormed : store.WellFormed) :
    (store.get? key).map Prod.fst = some value ↔ (key, value) ∈ store.entries := by
  obtain ⟨getEq, _⟩ := wellFormed.get?_eq key
  obtain ⟨order, arranged⟩ := wellFormed
  have isLookup : (store.get? key).map Prod.fst = List.lookup key store.entries := by
    simpa [Pairs.get?, Function.comp_def] using congrArg (Option.map Prod.fst) getEq.symm
  rw [isLookup]
  exact Pairs.lookup_iff_mem arranged.keys_nodup

/-- What an operation finds and what it writes is left, reported or written over. -/
theorem WellFormed.perform_perm (wellFormed : store.WellFormed) (operation : Operation V) :
    (operation.written?.toList ++ store.entries).Perm
      ((store.perform operation).1.entries ++ (store.perform operation).2.2 ++
        store.overwrites operation) := by
  cases operation with
  | put key value =>
      obtain ⟨putEq, _⟩ := wellFormed.put_eq key value
      have placed := Pairs.put_perm store.entries store.budget key value
      rw [putEq] at placed
      exact placed.symm
  | get key =>
      cases read : store.get? key with
      | none => simp [perform, read, Operation.written?, overwrites]
      | some found =>
          simpa [perform, read, Operation.written?, overwrites] using
            (wellFormed.get?_perm read).symm
  | contains key => simp [perform, Operation.written?, overwrites]
  | popOldest =>
      cases popped : store.popOldest? with
      | none => simp [perform, popped, Operation.written?, overwrites]
      | some result =>
          simp [perform, popped, Operation.written?, overwrites,
            wellFormed.entries_of_popped popped]
  | list => simp [perform, Operation.written?, overwrites]

/-- Before it reports anything, an operation records what it writes. -/
theorem WellFormed.recorded_written {past : List (Change V)} (wellFormed : store.WellFormed)
    (recorded : Recorded store.entries past) (operation : Operation V) :
    Recorded (store.during operation 0).entries
      (past ++ operation.written?.toList.map .written) := by
  cases operation with
  | put key value =>
      obtain ⟨_, writtenEntries, _⟩ := wellFormed.write key value
      have isWritten : (store.during (.put key value) 0).entries =
          (key, value) :: Pairs.without store.entries key := writtenEntries
      rw [isWritten]
      exact recorded.written key value
  | get key =>
      cases read : store.get? key with
      | none => simpa [Store.during, perform, read, Operation.written?] using recorded
      | some found =>
          simpa [Store.during, perform, read, Operation.written?] using
            recorded.perm (wellFormed.get?_perm read)
  | contains key => simpa [Store.during, perform, Operation.written?] using recorded
  | popOldest => simpa [Store.during, Operation.written?] using recorded
  | list => simpa [Store.during, perform, Operation.written?] using recorded

/-- At every moment of an operation, what it has written and reported is recorded. -/
theorem WellFormed.recorded_during {past : List (Change V)} (wellFormed : store.WellFormed)
    (recorded : Recorded store.entries past) (operation : Operation V) (removed : Nat)
    (bound : removed ≤ (store.perform operation).2.2.length) :
    Recorded (store.during operation removed).entries
      (past ++ operation.written?.toList.map .written ++
        ((store.perform operation).2.2.take removed).map .reported) := by
  induction removed with
  | zero => simpa using wellFormed.recorded_written recorded operation
  | succ removed inductionHypothesis =>
      obtain ⟨pair, isReported⟩ : ∃ pair, (store.perform operation).2.2[removed]? = some pair :=
        ⟨_, List.getElem?_eq_getElem bound⟩
      have split := wellFormed.entries_of_reported isReported
      have before := inductionHypothesis (Nat.le_of_succ_le bound)
      obtain ⟨order, arranged⟩ := wellFormed.during operation removed
      have differ := arranged.keys_nodup
      rw [split] at before differ
      rw [List.take_add_one, isReported, Option.toList_some, List.map_append, ← List.append_assoc]
      refine before.reported fun other mem same => ?_
      rw [List.map_append, List.nodup_append] at differ
      exact differ.2.2 other.1 (List.mem_map_of_mem mem) pair.1 (by simp) same

/-- An operation records its changes. -/
theorem WellFormed.recorded_perform {past : List (Change V)} (wellFormed : store.WellFormed)
    (recorded : Recorded store.entries past) (operation : Operation V) :
    Recorded (store.perform operation).1.entries (past ++ store.changes operation) := by
  have done := wellFormed.recorded_during recorded operation _ (Nat.le_refl _)
  rwa [during_reported, List.take_length, List.append_assoc] at done

/-- Of each key, an operation reports the one pair that it removes. -/
theorem WellFormed.occurs_reported (wellFormed : store.WellFormed) (operation : Operation V)
    (key : String) :
    Pairs.occurs (store.perform operation).2.2 key +
        ((store.perform operation).1.contains key).toNat =
      (store.contains key || operation.written?.any fun pair => pair.1 == key).toNat := by
  have placed := Pairs.occurs_perm (wellFormed.perform_perm operation) key
  obtain ⟨nextOrder, nextArranged⟩ := (wellFormed.perform_eq operation).2.1
  obtain ⟨order, arranged⟩ := wellFormed
  rw [Pairs.occurs_append, Pairs.occurs_append, Pairs.occurs_append, nextArranged.occurs_eq,
    arranged.occurs_eq, overwrites] at placed
  cases writes : operation.written? with
  | none =>
      simp only [writes, Option.toList_none, Option.elim_none] at placed
      simpa [Pairs.occurs, Nat.add_comm] using placed.symm
  | some pair =>
      simp only [writes, Option.toList_some, Option.elim_some, Pairs.occurs_only,
        arranged.occurs_eq] at placed
      by_cases same : pair.1 = key
      · simp [same, Pairs.occurs] at placed ⊢
        omega
      · have differs : (pair.1 == key) = false := beq_false_of_ne same
        simp [same, differs, Pairs.occurs] at placed ⊢
        omega

/-! ## A run -/

/-- The pairs of a run are those that stand after its changes. -/
theorem recorded_after (budget : Nat) (operations : List (Operation V)) :
    Recorded ((empty budget : Store V).after operations).entries
      ((empty budget).history operations) := by
  induction operations using List.reverseRecOn with
  | nil => exact .nil
  | append_singleton operations operation inductionHypothesis =>
      rw [after_concat, history_concat]
      exact (wellFormed_after budget operations).recorded_perform inductionHypothesis operation

/-- An account goes on: what was kept and is now written is kept, reported or written over. -/
theorem perm_account {α : Type} {written kept next reported overwritten : List α}
    (placed : (written ++ kept).Perm (next ++ reported ++ overwritten))
    (reports overwrites : List α) :
    (kept ++ reports ++ overwrites ++ written).Perm
      (next ++ (reports ++ reported) ++ (overwrites ++ overwritten)) := by
  simp only [← Multiset.coe_eq_coe, ← Multiset.coe_add] at placed ⊢
  calc (kept + reports + overwrites + written : Multiset α)
      = written + kept + (reports + overwrites) := by abel
    _ = next + reported + overwritten + (reports + overwrites) := by rw [placed]
    _ = next + (reports + reported) + (overwrites + overwritten) := by abel

/-- Every pair that a run wrote is left, reported or written over. -/
theorem written_perm (budget : Nat) (operations : List (Operation V)) :
    (operations.filterMap Operation.written?).Perm
      (((empty budget : Store V).after operations).entries ++
        ((empty budget).history operations).filterMap Change.reported? ++
          (empty budget).overwritten operations) := by
  induction operations using List.reverseRecOn with
  | nil => exact .nil
  | append_singleton operations operation inductionHypothesis =>
      have placed := (wellFormed_after (V := V) budget operations).perform_perm operation
      rw [after_concat, history_concat, overwritten_concat, List.filterMap_append,
        List.filterMap_append, reported?_changes]
      have isWritten : [operation].filterMap Operation.written? = operation.written?.toList := by
        cases writes : operation.written? <;> simp [writes]
      rw [isWritten]
      exact (inductionHypothesis.append_right _).trans (perm_account placed _ _)

/-- At the end of every run on an empty store, the pairs that were written are those that are left,
those that were reported and those that were written over while their key was there. A key has a
value exactly if the last write of it gave this value and no report of it followed; so does every
report give the value of the last write of its key, which had not been reported before. One more
operation reports a key once if it removes it, that is, if the key was there or is written and is
not there any more, and else not at all. -/
theorem pairs_are_kept_reported_or_overwritten (budget : Nat) (operations : List (Operation V)) :
    let start : Store V := empty budget
    let store := start.after operations
    let history := start.history operations
    history.filterMap Change.written? = operations.filterMap Operation.written? ∧
      (operations.filterMap Operation.written?).Perm
        (store.entries ++ history.filterMap Change.reported? ++ start.overwritten operations) ∧
      (∀ key value, (store.get? key).map Prod.fst = some value ↔ Stands history key value) ∧
      (∀ before pair after, history = before ++ .reported pair :: after →
        Stands before pair.1 pair.2) ∧
      ∀ operation key, Pairs.occurs (store.perform operation).2.2 key +
          ((store.perform operation).1.contains key).toNat =
        (store.contains key || operation.written?.any fun pair => pair.1 == key).toNat := by
  intro start store history
  have wellFormed : store.WellFormed := wellFormed_after budget operations
  have recorded : Recorded store.entries history := recorded_after budget operations
  refine ⟨written?_history operations, written_perm budget operations, fun key value => ?_,
    recorded.current, wellFormed.occurs_reported⟩
  exact wellFormed.get?_iff_mem.trans (recorded.stands key value)

end Store

end RingCache.Recency
