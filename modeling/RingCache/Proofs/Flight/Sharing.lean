import RingCache.Proofs.Flight.Histories

/-!
# Overlapping callers share one result

A caller that waits when its load is published is told the result
(`Waits.told_next`), keeps it until it ends (`Told.since`) and ends with it or is
cancelled. Conversely a caller that was told a result waited when it was
published (`Told.published`), so that every result that is returned comes from
one load of the caller's key (`Run.Receives`).
-/

namespace RingCache.Run

variable {ω κ σ γ ρ α : Type} {loads : Loads ω κ σ γ ρ} {act : ω → α → ω}

/-- Whether a caller ends with the result of the load of its key with a ticket:
its own load ends so, or it waited when that load ended so. -/
def Receives (run : Run loads act) (index id : Nat) (key : String) (ticket : Nat)
    (result : ρ) : Prop :=
  run.Publishes index id key ticket result ∨
    (.ended id key (.returned result) ∈ run.notices index ∧ run.Told index id key result ∧
      ∃ earlier leader, earlier < index ∧ run.Publishes earlier leader key ticket result ∧
        run.Waits earlier id key ticket)

/-- Whether a new caller is answered at once. -/
def Answers (run : Run loads act) (index id : Nat) (key : String) (result : ρ) : Prop :=
  id = (run.state index).nextCaller ∧ ∃ plan, run.happening index = .event (.start key plan) ∧
    (loads.greet (run.state index).world key plan).2 = some result

/-- Whether a caller that was told a result ends: it returns the result, unless
somebody cancels it first. -/
def EndsTold (run : Run loads act) (index id : Nat) (key : String) (result : ρ) : Prop :=
  run.notices index = [.ended id key (.returned result)] ∨
    (run.notices index = [.ended id key .cancelled] ∧ run.happening index = .withdraw id)

/-- Whether a caller is there while the load of its key with a ticket is in
flight. -/
def Overlaps (run : Run loads act) (index id : Nat) (key : String) (ticket : Nat) : Prop :=
  ((key, ticket) ∈ (run.state index).records ∧
      ∃ caller ∈ (run.state index).callers, caller.id = id ∧ caller.key = key) ∨
    run.Opens index id key ticket

variable {run : Run loads act} {index later id ticket : Nat} {key : String} {result : ρ}

/-! ## Callers that wait -/

/-- Nothing was seen of a caller that does not lead. -/
theorem silent_of_follows {caller : Caller κ σ ρ} (present : caller ∈ (run.state index).callers)
    (follows : caller.phase.isLeading = false) :
    ∀ earlier < index, ∀ notice ∈ run.notices earlier, notice.caller ≠ caller.id := by
  induction index generalizing caller with
  | zero => exact fun earlier before => absurd before (Nat.not_lt_zero _)
  | succ index inductionHypothesis =>
      have reduce : (∀ notice ∈ run.notices index, notice.caller ≠ caller.id) →
          (∀ earlier < index, ∀ notice ∈ run.notices earlier, notice.caller ≠ caller.id) →
          ∀ earlier < index + 1, ∀ notice ∈ run.notices earlier, notice.caller ≠ caller.id := by
        intro now before earlier isEarlier
        rcases Nat.lt_succ_iff_lt_or_eq.mp isEarlier with older | rfl
        · exact before earlier older
        · exact now
      have sound := run.sound index
      have nextSound := run.sound (index + 1)
      rcases (run.effect index).origin present with
        ⟨before, beforePresent, sameId, _⟩ | ⟨isNew, _, _, arrival⟩
      · rw [← sameId] at reduce ⊢
        cases (run.effect index).fate sound beforePresent with
        | stays stays silent =>
            obtain rfl := nextSound.sameCaller stays present sameId
            exact reduce silent (inductionHypothesis beforePresent follows)
        | learns own waits leader leading leads ending ended told silent =>
            exact reduce silent (inductionHypothesis beforePresent (by rw [waits]; rfl))
        | proceeds own stage next leads stays calls =>
            rw [← nextSound.sameCaller stays present sameId] at follows
            cases follows
        | joins own told found stays silent =>
            exact reduce (by simp [silent])
              (inductionHypothesis beforePresent (by rw [told]; rfl))
        | opens stage told opened stays calls =>
            rw [← nextSound.sameCaller stays present sameId] at follows
            cases follows
        | passes ending told opened gone => exact absurd sameId.symm (gone.2 caller present)
        | concludes own leads ending gone => exact absurd sameId.symm (gone.2 caller present)
        | receives own told gone => exact absurd sameId.symm (gone.2 caller present)
        | withdraws beforeFollows gone => exact absurd sameId.symm (gone.2 caller present)
      · have unseen : ∀ earlier < index, ∀ notice ∈ run.notices earlier,
            notice.caller ≠ caller.id :=
          fun earlier before => silent_before (Nat.le_of_eq isNew.symm) before
        rcases arrival with ⟨own, waits, found, silent⟩ | ⟨stage, leads, opened, calls⟩
        · exact reduce (by simp [silent]) unseen
        · rw [leads] at follows
          cases follows

/-- Who waits when its load ends learns what it leaves, unseen. -/
theorem Waits.learns_next {leader : Nat} {leaderKey : String} {ending : Ending ρ}
    (waits : run.Waits index id key ticket)
    (ends : run.Ends index leader leaderKey ticket ending) :
    (∃ caller ∈ (run.state (index + 1)).callers,
        caller.id = id ∧ caller.key = key ∧ caller.phase = .told ending.result?) ∧
      ∀ notice ∈ run.notices index, notice.caller ≠ id := by
  obtain ⟨waiter, present, rfl, rfl, phase⟩ := waits
  have sound := run.sound index
  rcases ends.2 with ⟨caller, leading, rfl, rfl, leads⟩ | ⟨_, isNext⟩
  · obtain ⟨told, silent⟩ :=
      (run.effect index).learns_of_ended sound leading leads ends.1 present phase
    exact ⟨⟨_, told, rfl, rfl, rfl⟩, silent⟩
  · rw [isNext] at phase
    exact absurd phase (sound.waiting_ne_new waiter present)

/-- Who waits when its load is published is told the result, unseen. -/
theorem Waits.told_next {leader : Nat} {leaderKey : String}
    (waits : run.Waits index id key ticket)
    (publishes : run.Publishes index leader leaderKey ticket result) :
    run.Told (index + 1) id key result ∧ ∀ notice ∈ run.notices index, notice.caller ≠ id :=
  waits.learns_next publishes.ends

/-! ## Callers that were told -/

/-- Who was told a result keeps it, unseen, or ends with it or cancelled. -/
theorem Told.next (told : run.Told index id key result) :
    (run.Told (index + 1) id key result ∧ ∀ notice ∈ run.notices index, notice.caller ≠ id) ∨
      ((run.state (index + 1)).Gone id ∧ run.EndsTold index id key result) := by
  obtain ⟨caller, present, rfl, rfl, phase⟩ := told
  rcases (run.effect index).fate_of_told (run.sound index) present phase with
    ⟨stays, silent⟩ | ends
  · exact .inl ⟨⟨caller, stays, rfl, rfl, phase⟩, silent⟩
  · exact .inr ends

/-- Who was told a result has it still, or has ended with it or cancelled. -/
theorem Told.since (told : run.Told index id key result) (after : index ≤ later) :
    run.Told later id key result ∨
      ((run.state later).Gone id ∧
        ∃ between, index ≤ between ∧ between < later ∧ run.EndsTold between id key result) := by
  induction after with
  | refl => exact .inl told
  | step after inductionHypothesis =>
      rcases inductionHypothesis with still | ⟨gone, between, since, before, ends⟩
      · rcases still.next with ⟨stays, _⟩ | ⟨gone, ends⟩
        · exact .inl stays
        · exact .inr ⟨gone, _, after, Nat.lt_succ_self _, ends⟩
      · exact .inr ⟨gone_later gone (Nat.le_succ _), between, since, Nat.lt_succ_of_lt before, ends⟩

/-- All that is seen of a caller that was told a result is that it ends with it,
unless somebody cancels it first. -/
theorem Told.noticed (told : run.Told index id key result) (after : index ≤ later)
    {notice : Notice γ ρ} (mem : notice ∈ run.notices later) (isCaller : notice.caller = id) :
    notice = .ended id key (.returned result) ∨
      (notice = .ended id key .cancelled ∧ run.happening later = .withdraw id) := by
  rcases told.since after with still | ⟨gone, _⟩
  · rcases still.next with ⟨_, silent⟩ | ⟨_, only | ⟨only, withdrawn⟩⟩
    · exact absurd isCaller (silent notice mem)
    · rw [only] at mem
      exact .inl (List.mem_singleton.mp mem)
    · rw [only] at mem
      exact .inr ⟨List.mem_singleton.mp mem, withdrawn⟩
  · exact absurd isCaller (silent_of_gone gone (Nat.le_refl _) notice mem)

/-- Who was told a result waited for the load that was published with it. -/
theorem Told.published (told : run.Told index id key result) :
    ∃ earlier leader ticket, earlier < index ∧
      run.Publishes earlier leader key ticket result ∧ run.Waits earlier id key ticket := by
  induction index with
  | zero =>
      obtain ⟨caller, present, _⟩ := told
      cases present
  | succ index inductionHypothesis =>
      obtain ⟨after, present, rfl, rfl, phase⟩ := told
      rcases (run.effect index).told_origin (run.sound index) present phase with
        already | ⟨ticket, waiter, waiting, sameId, sameKey, waits, leader, leading, leads, ending,
          ended, given⟩
      · obtain ⟨earlier, leader, ticket, isEarlier, publishes, waits⟩ :=
          inductionHypothesis ⟨after, already, rfl, rfl, phase⟩
        exact ⟨earlier, leader, ticket, Nat.lt_succ_of_lt isEarlier, publishes, waits⟩
      · have isResult : ending = .returned result := Ending.result?_eq_some.mp given
        have leaderKey : leader.key = after.key :=
          ((run.sound index).leader_key leading leads waiting waits).trans sameKey
        rw [isResult, leaderKey] at ended
        exact ⟨index, leader.id, ticket, Nat.lt_succ_self _,
          ⟨ended, .inl ⟨leader, leading, rfl, leaderKey, leads⟩⟩,
          waiter, waiting, sameId, sameKey, waits⟩

/-! ## Callers that end with a result -/

/-- A caller publishes one load. -/
theorem Publishes.sameTicket {otherKey : String} {otherResult : ρ} {other : Nat}
    (publishes : run.Publishes index id key ticket result)
    (also : run.Publishes index id otherKey other otherResult) : ticket = other := by
  rcases publishes.2 with ⟨leader, present, isLeader, _, leads⟩ | opens <;>
    rcases also.2 with ⟨otherLeader, otherPresent, isOther, _, otherLeads⟩ | otherOpens
  · obtain rfl := (run.sound index).sameCaller present otherPresent (isLeader.trans isOther.symm)
    have holds := Phase.ticket?_of_leads leads
    rw [Phase.ticket?_of_leads otherLeads] at holds
    exact (Option.some.inj holds).symm
  · rw [otherOpens.toldNothing present isLeader] at leads
    exact absurd leads Phase.not_leads_told
  · rw [opens.toldNothing otherPresent isOther] at otherLeads
    exact absurd otherLeads Phase.not_leads_told
  · exact opens.2.trans otherOpens.2.symm

/-- Who publishes a load was not told a result. -/
theorem Publishes.not_told {otherKey : String} {otherResult : ρ}
    (publishes : run.Publishes index id key ticket result) :
    ¬ run.Told index id otherKey otherResult := by
  rintro ⟨caller, present, isCaller, _, told⟩
  rcases publishes.2 with ⟨leader, leaderPresent, isLeader, _, leads⟩ | opens
  · obtain rfl := (run.sound index).sameCaller present leaderPresent (isCaller.trans isLeader.symm)
    rw [told] at leads
    exact absurd leads Phase.not_leads_told
  · have nothing := opens.toldNothing present isCaller
    rw [told] at nothing
    cases nothing

/-- Who waits when its load is published does not wait again. -/
theorem Waits.not_again {leader other : Nat} {otherKey : String}
    (waits : run.Waits index id key ticket)
    (publishes : run.Publishes index leader key ticket result) (after : index < later) :
    ¬ run.Waits later id otherKey other := by
  rintro ⟨caller, present, isCaller, _, waitsAgain⟩
  rcases (waits.told_next publishes).1.since (Nat.succ_le_of_lt after) with
    ⟨still, stillPresent, isStill, _, told⟩ | ⟨gone, _⟩
  · obtain rfl := (run.sound later).sameCaller present stillPresent (isCaller.trans isStill.symm)
    rw [told] at waitsAgain
    cases waitsAgain
  · exact gone.2 caller present isCaller

/-- Who receives a result has it from a load that was published, at the latest now. -/
theorem Receives.has_published (receives : run.Receives index id key ticket result) :
    ∃ time leader, time ≤ index ∧ run.Publishes time leader key ticket result := by
  rcases receives with publishes | ⟨_, _, earlier, leader, before, publishes, _⟩
  · exact ⟨index, id, Nat.le_refl _, publishes⟩
  · exact ⟨earlier, leader, Nat.le_of_lt before, publishes⟩

/-- A result that is received was published while the caller was there. -/
theorem Receives.published (receives : run.Receives index id key ticket result) :
    ∃ earlier leader, run.Publishes earlier leader key ticket result ∧
      id < (run.state (earlier + 1)).nextCaller ∧
      ∃ moment, moment ≤ index ∧ run.Overlaps moment id key ticket := by
  rcases receives with publishes | ⟨_, _, earlier, leader, before, publishes, waits⟩
  · refine ⟨index, id, publishes, numbered_of_noticed publishes.1, index, Nat.le_refl _, ?_⟩
    rcases publishes.2 with ⟨leader, present, isLeader, isKey, leads⟩ | opens
    · have recorded :=
        (run.sound index).recorded leader present ticket (Phase.ticket?_of_leads leads)
      exact .inl ⟨isKey ▸ recorded, leader, present, isLeader, isKey⟩
    · exact .inr opens
  · obtain ⟨caller, present, rfl, rfl, phase⟩ := waits
    have numbered := (run.sound earlier).callersNumbered caller present
    have recorded := (run.sound earlier).recorded caller present ticket (by rw [phase]; rfl)
    exact ⟨earlier, leader, publishes,
      Nat.lt_of_lt_of_le numbered (run.nextCaller_le (Nat.le_succ _)), earlier,
      Nat.le_of_lt before, .inl ⟨recorded, caller, present, rfl, rfl⟩⟩

/-- A caller receives the result of one load. -/
theorem Receives.unique {other : Nat} (receives : run.Receives index id key ticket result)
    (also : run.Receives index id key other result) : ticket = other := by
  rcases receives with publishes | ⟨_, told, earlier, leader, _, published, waits⟩ <;>
    rcases also with
      alsoPublishes | ⟨_, alsoTold, otherTime, otherLeader, _, alsoPublished, alsoWaits⟩
  · exact publishes.sameTicket alsoPublishes
  · exact absurd alsoTold publishes.not_told
  · exact absurd told alsoPublishes.not_told
  · rcases Nat.lt_trichotomy earlier otherTime with before | rfl | after
    · exact absurd alsoWaits (waits.not_again published before)
    · obtain ⟨caller, present, isCaller, _, phase⟩ := waits
      obtain ⟨otherCaller, otherPresent, isOther, _, otherPhase⟩ := alsoWaits
      obtain rfl :=
        (run.sound earlier).sameCaller present otherPresent (isCaller.trans isOther.symm)
      rw [phase] at otherPhase
      exact Phase.waiting.inj otherPhase
    · exact absurd waits (alsoWaits.not_again alsoPublished after)

/-- A caller that ends with a result was answered at once or has received it. -/
theorem receives_of_ended (ended : .ended id key (.returned result) ∈ run.notices index) :
    run.Answers index id key result ∨ ∃ ticket, run.Receives index id key ticket result := by
  rcases (run.effect index).ended ended with
    ⟨isNew, plan, own, started, greeted, isResult, _⟩ | opened |
      ⟨caller, present, rfl, rfl, leading | ⟨own, told, isResult⟩ | ⟨_, isCancelled⟩⟩
  · cases isResult
    exact .inl ⟨isNew, plan, started, greeted⟩
  · exact .inr ⟨_, .inl ⟨ended, .inr ⟨opened, rfl⟩⟩⟩
  · obtain ⟨ticket, leads⟩ := Phase.isLeading_iff.mp leading
    exact .inr ⟨ticket, .inl ⟨ended, .inl ⟨caller, present, rfl, rfl, leads⟩⟩⟩
  · cases isResult
    have isTold : run.Told index caller.id caller.key result := ⟨caller, present, rfl, rfl, told⟩
    obtain ⟨earlier, leader, ticket, before, publishes, waits⟩ := isTold.published
    exact .inr ⟨ticket, .inr ⟨ended, isTold, earlier, leader, before, publishes, waits⟩⟩
  · cases isCancelled

/-- Who comes is answered at once, or asks. -/
theorem Comes.cases (comes : run.Comes index id key) :
    (∃ result, run.Answers index id key result) ∨ run.Asks index id key := by
  obtain ⟨rfl, plan, started⟩ := comes
  cases greeted : (loads.greet (run.state index).world key plan).2 with
  | some result => exact .inl ⟨result, rfl, plan, started, greeted⟩
  | none => exact .inr (asks_of_missed started greeted)

/-! ## Sharing -/

/-- Who waits for a key when its load ends waits for that load. -/
theorem Ends.waits {leader : Nat} {ending : Ending ρ}
    (ends : run.Ends index leader key ticket ending)
    {waiter : Caller κ σ ρ} (present : waiter ∈ (run.state index).callers)
    (sameKey : waiter.key = key) (waiting : waiter.phase.isWaiting) :
    run.Waits index waiter.id key ticket := by
  have sound := run.sound index
  obtain ⟨own, phase⟩ := Phase.isWaiting_iff.mp waiting
  have recorded := sound.recorded waiter present own (by rw [phase]; rfl)
  rw [sameKey] at recorded
  rcases ends.2 with ⟨caller, leading, _, rfl, leads⟩ | opens
  · have leaderRecorded := sound.recorded caller leading ticket (Phase.ticket?_of_leads leads)
    obtain rfl := sound.sameTicket recorded leaderRecorded
    exact ⟨waiter, present, rfl, sameKey, phase⟩
  · exact absurd rfl (opens.1.2 _ recorded)

/-- All that is ever seen of who waits for a key when its load is published is that it
returns the result, or is cancelled. -/
theorem Publishes.noticed_waiter {leader other : Nat}
    (publishes : run.Publishes index leader key ticket result)
    {waiter : Caller κ σ ρ} (present : waiter ∈ (run.state index).callers)
    (sameKey : waiter.key = key) (waiting : waiter.phase.isWaiting) {notice : Notice γ ρ}
    (mem : notice ∈ run.notices other) (isWaiter : notice.caller = waiter.id) :
    index < other ∧ (notice = .ended waiter.id key (.returned result) ∨
      (notice = .ended waiter.id key .cancelled ∧
        run.happening other = .withdraw waiter.id)) := by
  obtain ⟨told, silent⟩ := (publishes.ends.waits present sameKey waiting).told_next publishes
  have unseen := silent_of_follows present (Phase.isLeading_of_isWaiting waiting)
  rcases Nat.lt_trichotomy other index with before | rfl | after
  · exact absurd isWaiter (unseen other before notice mem)
  · exact absurd isWaiter (silent notice mem)
  · exact ⟨after, told.noticed after mem isWaiter⟩

/-- Whoever comes after a load was published holds a later load of the key. -/
theorem Publishes.ticket_lt_of_newcomer {leader own : Nat}
    (publishes : run.Publishes index leader key ticket result) {caller : Caller κ σ ρ}
    (present : caller ∈ (run.state later).callers)
    (isLater : (run.state (index + 1)).nextCaller ≤ caller.id) (sameKey : caller.key = key)
    (holds : caller.phase.ticket? = some own) : ticket < own := by
  have numbered := (run.sound later).callersNumbered caller present
  have after := lt_of_numbered isLater numbered
  have recorded := (run.sound later).recorded caller present own holds
  exact publishes.ends.ticket_lt (Nat.lt_of_succ_lt after) (sameKey ▸ recorded)

/-- So it receives the result of a later load, if any. -/
theorem Receives.ticket_lt_of_newcomer {leader other own : Nat} {otherResult : ρ}
    (receives : run.Receives other id key own otherResult)
    (publishes : run.Publishes index leader key ticket result)
    (isLater : (run.state (index + 1)).nextCaller ≤ id) : ticket < own := by
  obtain ⟨earlier, otherLeader, published, numbered, _⟩ := receives.published
  exact publishes.ticket_lt_later published
    (Nat.lt_of_succ_lt_succ (lt_of_numbered isLater numbered))

/-- A load is published once. Everybody who waits for its key at that time calls
nothing, ever, and returns the result as soon as everybody who was told has gone
on, unless it is cancelled before; in a step it returns it at once. Nobody else
but the leader receives it: nobody with another key, and nobody who comes later,
who only gets later loads of the key. So whoever returns a result was answered at
once, or received it from exactly one load of its own key, which was in flight
while the caller was there. Whoever comes is answered at once, or starts a load of
its key or waits for one, and this is a later load than all that were published
before. -/
theorem overlapping_callers_share_one_result (run : Run loads act) :
    (∀ index leader key ticket result, run.Publishes index leader key ticket result →
      (∀ other otherLeader otherKey otherResult,
        run.Publishes other otherLeader otherKey ticket otherResult →
        index = other ∧ leader = otherLeader ∧ key = otherKey ∧ result = otherResult) ∧
      (∀ waiter ∈ (run.state index).callers, waiter.key = key → waiter.phase.isWaiting →
        (∀ other call, .called waiter.id call ∉ run.notices other) ∧
        (∀ other otherKey ending, .ended waiter.id otherKey ending ∈ run.notices other →
          index < other ∧ otherKey = key ∧ (ending = .returned result ∨
            (ending = .cancelled ∧ run.happening other = .withdraw waiter.id))) ∧
        ∀ later, index < later → (run.state later).told = [] →
          ∃ between, index < between ∧ between < later ∧
            run.EndsTold between waiter.id key result) ∧
      (∀ other id otherKey otherResult, run.Receives other id otherKey ticket otherResult →
        otherKey = key ∧ otherResult = result ∧ id < (run.state (index + 1)).nextCaller) ∧
      (∀ later, ∀ caller ∈ (run.state later).callers,
        (run.state (index + 1)).nextCaller ≤ caller.id → caller.key = key →
        ∀ own, caller.phase.ticket? = some own → ticket < own) ∧
      ∀ other id own otherResult, (run.state (index + 1)).nextCaller ≤ id →
        run.Receives other id key own otherResult → ticket < own) ∧
    (∀ index event ticket result, ∀ leader ∈ (run.state index).callers,
      leader.phase.leads ticket →
      .ended leader.id leader.key (.returned result) ∈ ((run.state index).apply loads event).2 →
      ∀ waiter ∈ (run.state index).callers, waiter.phase = .waiting ticket →
        .ended waiter.id waiter.key (.returned result) ∈
          ((run.state index).step loads event).2) ∧
    (∀ index id key result, .ended id key (.returned result) ∈ run.notices index →
      run.Answers index id key result ∨
        ((∃! ticket, run.Receives index id key ticket result) ∧
          ∀ ticket, run.Receives index id key ticket result →
            ∃ moment, moment ≤ index ∧ run.Overlaps moment id key ticket)) ∧
    ∀ index id key, run.Comes index id key →
      (∃ result, run.Answers index id key result) ∨
        ∃ own, (run.Opens index id key own ∨ run.Waits (index + 1) id key own) ∧
          ∀ earlier leader ticket result, earlier < index →
            run.Publishes earlier leader key ticket result → ticket < own := by
  refine ⟨?_, ?_, ?_, ?_⟩
  · intro index leader key ticket result publishes
    refine ⟨fun other otherLeader otherKey otherResult also => publishes.once also, ?_, ?_, ?_, ?_⟩
    · intro waiter present sameKey waiting
      refine ⟨?_, ?_, ?_⟩
      · intro other call called
        rcases (publishes.noticed_waiter present sameKey waiting called rfl).2 with
          isEnd | ⟨isEnd, _⟩ <;> cases isEnd
      · intro other otherKey ending ended
        obtain ⟨after, isEnd | ⟨isEnd, withdrawn⟩⟩ :=
          publishes.noticed_waiter present sameKey waiting ended rfl
        · cases isEnd
          exact ⟨after, rfl, .inl rfl⟩
        · cases isEnd
          exact ⟨after, rfl, .inr ⟨rfl, withdrawn⟩⟩
      · intro later after nobody
        have waits := publishes.ends.waits present sameKey waiting
        rcases (waits.told_next publishes).1.since (Nat.succ_le_of_lt after) with
          ⟨caller, stays, _, _, isTold⟩ | ⟨_, between, since, before, ends⟩
        · exact absurd nobody (Flight.told_ne_nil stays isTold)
        · exact ⟨between, since, before, ends⟩
    · intro other id otherKey otherResult receives
      obtain ⟨earlier, otherLeader, published, numbered, _⟩ := receives.published
      obtain ⟨rfl, _, rfl, rfl⟩ := publishes.once published
      exact ⟨rfl, rfl, numbered⟩
    · intro later caller present isLater sameKey own holds
      exact publishes.ticket_lt_of_newcomer present isLater sameKey holds
    · intro other id own otherResult isLater receives
      exact receives.ticket_lt_of_newcomer publishes isLater
  · intro index event ticket result leader leading leads ended waiter present waits
    exact (run.sound index).mem_step loads event leading leads ended present waits
  · intro index id key result ended
    rcases receives_of_ended ended with answers | ⟨ticket, receives⟩
    · exact .inl answers
    · refine .inr ⟨⟨ticket, receives, fun other also => also.unique receives⟩, ?_⟩
      intro own also
      obtain ⟨_, _, _, _, moment, within, overlaps⟩ := also.published
      exact ⟨moment, within, overlaps⟩
  · intro index id key comes
    rcases comes.cases with answers | asks
    · exact .inl answers
    · obtain ⟨own, enters, isLater⟩ := asks.opens_or_waits
      exact .inr ⟨own, enters, fun earlier leader ticket result before publishes =>
        isLater earlier leader ticket _ before publishes.ends⟩

end RingCache.Run
