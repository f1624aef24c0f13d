import RingCache.Proofs.Flight.Sharing

/-!
# What becomes of a new caller

A new caller that is answered at once ends there (`Answers.next`). One that is
not, while the load of its key is in flight, waits for that load (`Joins.waits`).
If nobody is cancelled and no load crashes, a load that is waited for ends with
a result, so that whoever joined it returns this result and nothing else
(`Joins.noticed`), and does so as soon as the load is over and everybody who was
told has gone on (`Joins.returns`).
-/

namespace RingCache.Run

variable {ω κ σ γ ρ α : Type} {loads : Loads ω κ σ γ ρ} {act : ω → α → ω}

/-- Whether nobody is cancelled and no load crashes, so that whoever ends returns
a result. -/
def Undisturbed (run : Run loads act) : Prop :=
  ∀ index id key ending, .ended id key ending ∈ run.notices index →
    ∃ result, ending = .returned result

/-- Whether a new caller is not answered at once, while the load of its key with
a ticket is in flight. -/
def Joins (run : Run loads act) (index id : Nat) (key : String) (ticket : Nat) : Prop :=
  id = (run.state index).nextCaller ∧ ∃ plan, run.happening index = .event (.start key plan) ∧
    (loads.greet (run.state index).world key plan).2 = none ∧
    (key, ticket) ∈ (run.state index).records

variable {run : Run loads act} {index later id ticket : Nat} {key : String} {result : ρ}

/-! ## Callers that are answered at once -/

/-- Who is answered at once ends with the answer, unseen otherwise. -/
theorem Answers.next (answers : run.Answers index id key result) :
    run.notices index = [.ended id key (.returned result)] ∧
      (run.state (index + 1)).Gone id := by
  obtain ⟨rfl, plan, started, greeted⟩ := answers
  have happened : (run.state index).happen loads act (run.happening index) =
      ({ run.state index with
          world := (loads.greet (run.state index).world key plan).1
          nextCaller := (run.state index).nextCaller + 1 },
        [.ended (run.state index).nextCaller key (.returned result)]) := by
    rw [started, Flight.happen, Flight.apply, Flight.ask, greeted]
  refine ⟨congrArg Prod.snd happened, ?_⟩
  rw [state, happened]
  refine ⟨Nat.lt_succ_self _, fun caller present => ?_⟩
  exact Nat.ne_of_lt ((run.sound index).callersNumbered caller present)

/-- Who is answered at once calls nothing, ever. -/
theorem Answers.calls (answers : run.Answers index id key result) :
    run.calls id later = [] := by
  obtain ⟨only, gone⟩ := answers.next
  refine calls_eq_nil fun earlier _ call called => ?_
  rcases Nat.lt_trichotomy earlier index with before | rfl | after
  · exact silent_before (Nat.le_of_eq answers.1.symm) before _ called rfl
  · rw [only] at called
    cases List.mem_singleton.mp called
  · exact silent_of_gone gone after _ called rfl

/-! ## Callers that join a load -/

/-- Who joins a load waits for it, unseen. -/
theorem Joins.waits (joins : run.Joins index id key ticket) :
    run.Waits (index + 1) id key ticket ∧ run.notices index = [] := by
  obtain ⟨rfl, plan, started, missed, found⟩ := joins
  exact (asks_of_missed started missed).waits found

/-- If nobody is cancelled, who waits goes on waiting until the load is published,
unseen. -/
theorem Waits.next (quiet : run.Undisturbed) (waits : run.Waits index id key ticket) :
    (run.Waits (index + 1) id key ticket ∨
        ∃ leader result, run.Publishes index leader key ticket result) ∧
      ∀ notice ∈ run.notices index, notice.caller ≠ id := by
  obtain ⟨waiter, present, rfl, rfl, phase⟩ := waits
  have sound := run.sound index
  rcases (run.effect index).fate_of_waiting sound present phase with
    ⟨stays, silent⟩ | ⟨leader, leading, leads, ending, ended, _, silent⟩ | ⟨_, only⟩
  · exact ⟨.inl ⟨waiter, stays, rfl, rfl, phase⟩, silent⟩
  · obtain ⟨result, rfl⟩ := quiet index _ _ ending ended
    have sameKey := sound.leader_key leading leads present phase
    rw [sameKey] at ended
    exact ⟨.inr ⟨leader.id, result, ended, .inl ⟨leader, leading, rfl, sameKey, leads⟩⟩, silent⟩
  · have cancelled : .ended waiter.id waiter.key .cancelled ∈ run.notices index := by
      rw [only]
      exact List.mem_singleton_self _
    obtain ⟨result, isReturned⟩ := quiet index _ _ _ cancelled
    cases isReturned

/-- If nobody is cancelled, who waits for a load has been told its result as soon
as it is over. -/
theorem Waits.since (quiet : run.Undisturbed) (waits : run.Waits index id key ticket)
    (after : index ≤ later) :
    run.Waits later id key ticket ∨
      ∃ between leader result, index ≤ between ∧ between < later ∧
        run.Publishes between leader key ticket result ∧ run.Waits between id key ticket := by
  induction after with
  | refl => exact .inl waits
  | step after inductionHypothesis =>
      rcases inductionHypothesis with still | ⟨between, leader, result, since, before, published⟩
      · rcases (still.next quiet).1 with waitsOn | ⟨leader, result, publishes⟩
        · exact .inl waitsOn
        · exact .inr ⟨_, leader, result, after, Nat.lt_succ_self _, publishes, still⟩
      · exact .inr ⟨between, leader, result, since, Nat.lt_succ_of_lt before, published⟩

/-- If nobody is cancelled and no load crashes, all that is ever seen of a caller
that joins a load is that it returns the result of that load. -/
theorem Joins.noticed (quiet : run.Undisturbed) (joins : run.Joins index id key ticket)
    {notice : Notice γ ρ} (mem : notice ∈ run.notices later) (isCaller : notice.caller = id) :
    ∃ result, notice = .ended id key (.returned result) ∧
      run.Receives later id key ticket result := by
  obtain ⟨waits, nothing⟩ := joins.waits
  have after : index + 1 ≤ later := by
    by_contra notAfter
    rcases Nat.lt_succ_iff_lt_or_eq.mp (Nat.lt_of_not_le notAfter) with before | rfl
    · exact silent_before (Nat.le_of_eq joins.1.symm) before notice mem isCaller
    · rw [nothing] at mem
      cases mem
  rcases waits.since quiet after with
    still | ⟨between, leader, result, _, before, publishes, waitsThen⟩
  · exact absurd isCaller ((still.next quiet).2 notice mem)
  · rcases (waitsThen.told_next publishes).1.since (Nat.succ_le_of_lt before) with
      told | ⟨gone, _⟩
    · rcases told.noticed (Nat.le_refl _) mem isCaller with rfl | ⟨rfl, _⟩
      · exact ⟨result, rfl, .inr ⟨mem, told, between, leader, before, publishes, waitsThen⟩⟩
      · obtain ⟨other, isReturned⟩ := quiet later _ _ _ mem
        cases isReturned
    · exact absurd isCaller (silent_of_gone gone (Nat.le_refl _) notice mem)

/-- Who joins a load calls nothing, ever, if nobody is cancelled and no load
crashes. -/
theorem Joins.calls (quiet : run.Undisturbed) (joins : run.Joins index id key ticket) :
    run.calls id later = [] := by
  refine calls_eq_nil fun earlier _ call called => ?_
  obtain ⟨result, isEnd, _⟩ := joins.noticed quiet called rfl
  cases isEnd

/-- If nobody is cancelled and no load crashes, who joins a load has returned its
result once the load is over and everybody who was told has gone on. -/
theorem Joins.returns (quiet : run.Undisturbed) (joins : run.Joins index id key ticket)
    (after : index < later) (settled : (run.state later).told = [])
    (isOver : (key, ticket) ∉ (run.state later).records) :
    ∃ between result, between < later ∧ run.Receives between id key ticket result := by
  rcases joins.waits.1.since quiet after with
    ⟨waiter, present, rfl, rfl, phase⟩ | ⟨between, leader, result, _, before, publishes, waits⟩
  · have recorded := (run.sound later).recorded waiter present ticket (by rw [phase]; rfl)
    exact absurd recorded isOver
  · rcases (waits.told_next publishes).1.since (Nat.succ_le_of_lt before) with
      ⟨caller, stays, _, _, isTold⟩ | ⟨_, moment, _, isBefore, ends⟩
    · exact absurd settled (Flight.told_ne_nil stays isTold)
    · have seen : ∃ ending, .ended id key ending ∈ run.notices moment := by
        rcases ends with only | ⟨only, _⟩ <;> rw [only] <;>
          exact ⟨_, List.mem_singleton_self _⟩
      obtain ⟨ending, ended⟩ := seen
      obtain ⟨given, _, receives⟩ := joins.noticed quiet ended rfl
      exact ⟨moment, given, isBefore, receives⟩

end RingCache.Run
