import RingCache.Proofs.Flight.Leaders

/-!
# Callers and loads over time

A caller that has ended is never seen again, a ticket that is spent never comes
back, and who waits has not been seen before. These facts follow one caller or
one load through a run; each is an effect or a fate, repeated.

`Run.Leads`, `Run.Waits`, `Run.Told` and `Run.Asks` say what a caller does at a time,
`Run.Ends` that a load ends, and `Run.Publishes` that it ends with a result.
-/

namespace RingCache

variable {ω κ σ γ ρ α : Type} {loads : Loads ω κ σ γ ρ} {act : ω → α → ω}

/-- The call of a caller that a notice shows. -/
def Notice.callOf? (id : Nat) : Notice γ ρ → Option γ
  | .called caller call => if caller = id then some call else none
  | .ended _ _ _ => none

theorem Notice.filterMap_called (id : Nat) (calls : List γ) :
    (calls.map (Notice.called id : γ → Notice γ ρ)).filterMap (Notice.callOf? id) = calls := by
  rw [List.filterMap_map]
  refine (List.filterMap_congr fun call _ => ?_).trans List.filterMap_some
  exact if_pos rfl

namespace Run

/-- Whether a caller leads the load of a key with a ticket. -/
def Leads (run : Run loads act) (index id : Nat) (key : String) (ticket : Nat) : Prop :=
  ∃ caller ∈ (run.state index).callers,
    caller.id = id ∧ caller.key = key ∧ caller.phase.leads ticket

/-- Whether a caller that has started the load of a key with a ticket is at a
stage of it, or is gone. -/
def AtStage (run : Run loads act) (index id : Nat) (key : String) (ticket : Nat) (stage : σ) :
    Prop :=
  (∃ caller ∈ (run.state index).callers,
      caller.id = id ∧ caller.key = key ∧ caller.phase = .leading ticket stage) ∨
    (run.state index).Gone id

/-- Whether a caller waits for the load of a key with a ticket. -/
def Waits (run : Run loads act) (index id : Nat) (key : String) (ticket : Nat) : Prop :=
  ∃ caller ∈ (run.state index).callers,
    caller.id = id ∧ caller.key = key ∧ caller.phase = .waiting ticket

/-- Whether a caller of a key has been told a result. -/
def Told (run : Run loads act) (index id : Nat) (key : String) (result : ρ) : Prop :=
  ∃ caller ∈ (run.state index).callers,
    caller.id = id ∧ caller.key = key ∧ caller.phase = .told (some result)

/-- Whether a caller enters for a key: it has just come and is not answered at
once, or it was told that a load gave nothing and goes on. -/
def Asks (run : Run loads act) (index id : Nat) (key : String) : Prop :=
  ∃ plan base, Flight.Entrant loads (run.state index) (run.happening index) id key plan base

/-- Whether a new caller comes for a key. -/
def Comes (run : Run loads act) (index id : Nat) (key : String) : Prop :=
  id = (run.state index).nextCaller ∧ ∃ plan, run.happening index = .event (.start key plan)

/-- Whether a caller starts the load of a key with a ticket. -/
def Opens (run : Run loads act) (index id : Nat) (key : String) (ticket : Nat) : Prop :=
  (run.state index).Opens loads (run.happening index) id key ∧
    ticket = (run.state index).nextTicket

/-- Whether the load of a key with a ticket ends, and its leader with it. -/
def Ends (run : Run loads act) (index id : Nat) (key : String) (ticket : Nat)
    (ending : Ending ρ) : Prop :=
  .ended id key ending ∈ run.notices index ∧
    (run.Leads index id key ticket ∨ run.Opens index id key ticket)

/-- Whether the load of a key with a ticket ends with a result, which its leader
then returns. -/
def Publishes (run : Run loads act) (index id : Nat) (key : String) (ticket : Nat)
    (result : ρ) : Prop :=
  .ended id key (.returned result) ∈ run.notices index ∧
    (run.Leads index id key ticket ∨ run.Opens index id key ticket)

/-- What the loads of a caller have called before a time, in order. -/
def calls (run : Run loads act) (id : Nat) : Nat → List γ
  | 0 => []
  | index + 1 =>
      run.calls id index ++ (run.notices index).filterMap (Notice.callOf? id)

variable {run : Run loads act} {index later id ticket : Nat} {key : String} {result : ρ}
  {ending : Ending ρ}

/-! ## Numbers, tickets and records -/

theorem nextCaller_le (run : Run loads act) (after : index ≤ later) :
    (run.state index).nextCaller ≤ (run.state later).nextCaller := by
  induction after with
  | refl => exact Nat.le_refl _
  | step _ inductionHypothesis => exact inductionHypothesis.trans (run.effect _).nextCaller_le

/-- Whoever comes from a time on is there only after it. -/
theorem lt_of_numbered (isLater : (run.state index).nextCaller ≤ id)
    (numbered : id < (run.state later).nextCaller) : index < later :=
  Nat.lt_of_not_le fun before =>
    Nat.not_lt.mpr isLater (Nat.lt_of_lt_of_le numbered (run.nextCaller_le before))

theorem nextTicket_le (run : Run loads act) (after : index ≤ later) :
    (run.state index).nextTicket ≤ (run.state later).nextTicket := by
  induction after with
  | refl => exact Nat.le_refl _
  | step _ inductionHypothesis => exact inductionHypothesis.trans (run.effect _).nextTicket_le

/-- Who is gone stays gone. -/
theorem gone_later (gone : (run.state index).Gone id) (after : index ≤ later) :
    (run.state later).Gone id := by
  induction after with
  | refl => exact gone
  | step _ inductionHypothesis => exact ((run.effect _).gone inductionHypothesis).1

/-- Nothing is seen of who is gone. -/
theorem silent_of_gone (gone : (run.state index).Gone id) (after : index ≤ later) :
    ∀ notice ∈ run.notices later, notice.caller ≠ id :=
  ((run.effect later).gone (gone_later gone after)).2

/-- A record is an old one, or has a new ticket. -/
theorem record_origin (after : index ≤ later) {record : String × Nat}
    (found : record ∈ (run.state later).records) :
    record ∈ (run.state index).records ∨ (run.state index).nextTicket ≤ record.2 := by
  induction after with
  | refl => exact .inl found
  | step after inductionHypothesis =>
      rcases (run.effect _).record_origin found with before | ⟨isNew, _⟩
      · exact inductionHypothesis before
      · exact .inr (isNew ▸ run.nextTicket_le after)

/-- A record whose ticket was issued at some time was there then. -/
theorem record_since (after : index ≤ later) {record : String × Nat}
    (found : record ∈ (run.state later).records)
    (issued : record.2 < (run.state index).nextTicket) : record ∈ (run.state index).records := by
  rcases record_origin after found with before | isNew
  · exact before
  · exact absurd issued (Nat.not_lt_of_le isNew)

/-- As long as nobody starts a load of a key, the key has no record. -/
theorem free_of_unopened (free : ∀ record ∈ (run.state index).records, record.1 ≠ key)
    (after : index ≤ later) (unopened : ∀ between, index ≤ between → between < later →
      ∀ id ticket, ¬ run.Opens between id key ticket) :
    ∀ record ∈ (run.state later).records, record.1 ≠ key := by
  induction after with
  | refl => exact free
  | @step last after inductionHypothesis =>
      have freeBefore := inductionHypothesis fun between since before =>
        unopened between since (Nat.lt_succ_of_lt before)
      rintro ⟨other, own⟩ found rfl
      have sound := run.sound last
      obtain ⟨leader, present, sameKey, leads⟩ := (run.sound (last + 1)).led _ found
      rcases (run.effect last).leader_origin sound present leads with
        ⟨before, beforePresent, _, beforeKey, leadsBefore⟩ | ⟨opened, isNext⟩
      · have recorded :=
          sound.recorded before beforePresent own (Phase.ticket?_of_leads leadsBefore)
        exact freeBefore _ recorded (beforeKey.trans sameKey)
      · rw [sameKey] at opened
        exact unopened last after (Nat.lt_succ_self _) leader.id own ⟨opened, isNext⟩

/-- Callers that are seen have come. -/
theorem numbered_of_noticed {notice : Notice γ ρ} (mem : notice ∈ run.notices index) :
    notice.caller < (run.state (index + 1)).nextCaller := by
  rcases (run.effect index).noticed mem with ⟨caller, present, same⟩ | ⟨isNew, grown⟩
  · have numbered := (run.sound index).callersNumbered caller present
    exact same ▸ Nat.lt_of_lt_of_le numbered (run.effect index).nextCaller_le
  · exact isNew ▸ grown

/-- Nothing is seen of a caller before it comes. -/
theorem silent_before (numbered : (run.state index).nextCaller ≤ id) (before : later < index) :
    ∀ notice ∈ run.notices later, notice.caller ≠ id := by
  rintro notice mem rfl
  have after := lt_of_numbered numbered (numbered_of_noticed mem)
  omega

/-! ## Loads -/

/-- A load that ends has a ticket, and then its key has no record. -/
theorem Ends.spent (ends : run.Ends index id key ticket ending) :
    ticket < (run.state (index + 1)).nextTicket ∧
      (∀ record ∈ (run.state (index + 1)).records, record.1 ≠ key) ∧
      ∀ record ∈ (run.state (index + 1)).records, record.2 ≠ ticket := by
  obtain ⟨ended, ⟨leader, present, rfl, rfl, leads⟩ | ⟨opened, rfl⟩⟩ := ends
  · have sound := run.sound index
    have recorded := sound.recorded leader present ticket (Phase.ticket?_of_leads leads)
    have issued := sound.ticketsIssued _ recorded
    have freed := (run.effect index).freed sound present leads ended
    refine ⟨Nat.lt_of_lt_of_le issued (run.effect index).nextTicket_le, freed, ?_⟩
    rintro ⟨other, own⟩ found rfl
    rcases (run.effect index).record_origin found with before | ⟨isNew, _⟩
    · exact freed _ found (sound.sameKey before recorded)
    · exact absurd issued (by rw [isNew]; exact Nat.lt_irrefl _)
  · have sound := run.sound index
    obtain ⟨_, _, _, issued, _⟩ := opened.happen_cases act sound
    obtain ⟨_, _, kept⟩ := opened.ended act sound ended
    have sameRecords : (run.state (index + 1)).records = (run.state index).records := kept
    have grown : (run.state (index + 1)).nextTicket = (run.state index).nextTicket + 1 := issued
    refine ⟨grown ▸ Nat.lt_succ_self _, ?_, ?_⟩
    · rw [sameRecords]
      exact opened.2
    · rw [sameRecords]
      intro record found
      exact Nat.ne_of_lt (sound.ticketsIssued record found)

/-- Nobody leads or waits for a load that has ended. -/
theorem Ends.unheld (ends : run.Ends index id key ticket ending) (after : index < later) :
    ∀ caller ∈ (run.state later).callers, caller.phase.ticket? ≠ some ticket := by
  intro caller present holds
  obtain ⟨issued, _, spent⟩ := ends.spent
  have recorded := (run.sound later).recorded caller present ticket holds
  rcases record_origin (Nat.succ_le_of_lt after) recorded with old | isNew
  · exact spent _ old rfl
  · exact absurd issued (Nat.not_lt_of_le isNew)

/-- A load in flight after one has ended is a later load of its key. -/
theorem Ends.ticket_lt (ends : run.Ends index id key ticket ending)
    (after : index < later) {own : Nat} (found : (key, own) ∈ (run.state later).records) :
    ticket < own := by
  obtain ⟨issued, freed, _⟩ := ends.spent
  rcases record_origin (Nat.succ_le_of_lt after) found with old | isNew
  · exact absurd rfl (freed _ old)
  · exact Nat.lt_of_lt_of_le issued isNew

/-- A load that starts after another one has ended is a later one. -/
theorem Ends.ticket_lt_opens {otherId own : Nat} {otherKey : String}
    (ends : run.Ends index id key ticket ending) (opens : run.Opens later otherId otherKey own)
    (after : index < later) : ticket < own := by
  rw [opens.2]
  exact Nat.lt_of_lt_of_le ends.spent.1 (run.nextTicket_le (Nat.succ_le_of_lt after))

/-- A load ends once. -/
theorem Ends.once {otherIndex otherId : Nat} {otherKey : String} {otherEnding : Ending ρ}
    (ends : run.Ends index id key ticket ending)
    (also : run.Ends otherIndex otherId otherKey ticket otherEnding) :
    index = otherIndex ∧ id = otherId ∧ key = otherKey ∧ ending = otherEnding := by
  have notLater : ∀ {first second firstId secondId firstKey secondKey firstEnding secondEnding},
      run.Ends first firstId firstKey ticket firstEnding →
      run.Ends second secondId secondKey ticket secondEnding → ¬ first < second := by
    intro first second firstId secondId firstKey secondKey firstEnding secondEnding earlier again
      before
    rcases again.2 with ⟨leader, present, _, _, leads⟩ | opens
    · exact earlier.unheld before leader present (Phase.ticket?_of_leads leads)
    · exact Nat.lt_irrefl _ (earlier.ticket_lt_opens opens before)
  have sameTime : index = otherIndex :=
    Nat.le_antisymm (Nat.le_of_not_lt (notLater also ends))
      (Nat.le_of_not_lt (notLater ends also))
  subst sameTime
  obtain ⟨sameId, sameKey, sameEnding⟩ := (run.effect index).ended_once ends.1 also.1
  exact ⟨rfl, sameId, sameKey, sameEnding⟩

theorem Publishes.ends (publishes : run.Publishes index id key ticket result) :
    run.Ends index id key ticket (.returned result) :=
  publishes

/-- A load is published once. -/
theorem Publishes.once {otherIndex otherId : Nat} {otherKey : String} {otherResult : ρ}
    (publishes : run.Publishes index id key ticket result)
    (also : run.Publishes otherIndex otherId otherKey ticket otherResult) :
    index = otherIndex ∧ id = otherId ∧ key = otherKey ∧ result = otherResult := by
  obtain ⟨sameTime, sameId, sameKey, sameEnding⟩ := publishes.ends.once also.ends
  exact ⟨sameTime, sameId, sameKey, Ending.returned.inj sameEnding⟩

/-- A load that is published later is a later load of its key. -/
theorem Publishes.ticket_lt_later {otherId own : Nat} {otherResult : ρ}
    (publishes : run.Publishes index id key ticket result)
    (also : run.Publishes later otherId key own otherResult) (after : index < later) :
    ticket < own := by
  rcases also.2 with ⟨leader, present, _, rfl, leads⟩ | opens
  · exact publishes.ends.ticket_lt after
      ((run.sound later).recorded leader present own (Phase.ticket?_of_leads leads))
  · exact publishes.ends.ticket_lt_opens opens after

/-! ## Callers that ask -/

/-- Who comes and is not answered at once asks. -/
theorem asks_of_missed {plan : κ} (started : run.happening index = .event (.start key plan))
    (missed : (loads.greet (run.state index).world key plan).2 = none) :
    run.Asks index (run.state index).nextCaller key := by
  have entrant : Flight.Entrant loads (run.state index)
      (.event (.start key plan) : Happening α κ) _ key plan _ := .fresh key plan missed
  rw [← started] at entrant
  exact ⟨plan, _, entrant⟩

/-- Who asks while the load of its key is in flight waits for it, unseen. -/
theorem Asks.waits (asks : run.Asks index id key)
    (found : (key, ticket) ∈ (run.state index).records) :
    run.Waits (index + 1) id key ticket ∧ run.notices index = [] := by
  obtain ⟨plan, base, entrant⟩ := asks
  have entered := entrant.happen_waiting act (run.sound index) found
  refine ⟨?_, congrArg Prod.snd entered⟩
  rw [Waits, state, entered]
  exact ⟨_, Flight.mem_callers_add.mpr (.inr rfl), rfl, rfl, rfl⟩

/-- Who asks while its key has no record starts a load. -/
theorem Asks.opens (asks : run.Asks index id key)
    (free : ∀ record ∈ (run.state index).records, record.1 ≠ key) :
    run.Opens index id key (run.state index).nextTicket :=
  ⟨⟨asks, free⟩, rfl⟩

/-- Who asks starts a load or waits for one, which is a later one than all that have ended before. -/
theorem Asks.opens_or_waits (asks : run.Asks index id key) :
    ∃ own, (run.Opens index id key own ∨ run.Waits (index + 1) id key own) ∧
      ∀ earlier leader ticket ending, earlier < index →
        run.Ends earlier leader key ticket ending → ticket < own := by
  by_cases free : ∀ record ∈ (run.state index).records, record.1 ≠ key
  · have opens := asks.opens free
    exact ⟨_, .inl opens, fun _ _ _ _ before ends => ends.ticket_lt_opens opens before⟩
  · simp only [not_forall, not_not] at free
    obtain ⟨⟨_, own⟩, found, rfl⟩ := free
    exact ⟨own, .inr (asks.waits found).1, fun _ _ _ _ before ends => ends.ticket_lt before found⟩

theorem Opens.asks (opens : run.Opens index id key ticket) : run.Asks index id key :=
  opens.1.1

/-- One caller asks at a time. -/
theorem Asks.unique {otherId : Nat} {otherKey : String} (asks : run.Asks index id key)
    (also : run.Asks index otherId otherKey) : id = otherId ∧ key = otherKey := by
  obtain ⟨plan, base, entrant⟩ := asks
  obtain ⟨otherPlan, otherBase, otherEntrant⟩ := also
  exact entrant.unique otherEntrant (run.sound index)

/-! ## Callers that lead -/

/-- A caller that leads a load leads it still, or is gone. -/
theorem Leads.next (leads : run.Leads index id key ticket) :
    run.Leads (index + 1) id key ticket ∨ (run.state (index + 1)).Gone id := by
  obtain ⟨leader, present, rfl, rfl, stage, phase⟩ := leads
  rcases (run.effect index).fate_of_leader (run.sound index) present phase with
    ⟨stays, _⟩ | ⟨_, _, _, _, _, _, _, ⟨later, _, stays, _⟩ | ⟨_, _, gone, _⟩⟩ | ⟨_, gone, _⟩
  · exact .inl ⟨leader, stays, rfl, rfl, stage, phase⟩
  · exact .inl ⟨_, stays, rfl, rfl, later, rfl⟩
  · exact .inr gone
  · exact .inr gone

/-- The ticket of a load that starts is used up. -/
theorem Opens.issued (opens : run.Opens index id key ticket) :
    ticket < (run.state (index + 1)).nextTicket := by
  obtain ⟨_, _, _, issued, _⟩ := opens.1.happen_cases act (run.sound index)
  have grown : (run.state (index + 1)).nextTicket = (run.state index).nextTicket + 1 := issued
  rw [grown, opens.2]
  exact Nat.lt_succ_self _

/-- A caller that starts a load leads it from then on until it is gone. -/
theorem Opens.since (opens : run.Opens index id key ticket) (after : index < later) :
    run.Leads later id key ticket ∨ (run.state later).Gone id := by
  induction after with
  | refl =>
      obtain ⟨opened, isNext⟩ := opens
      obtain ⟨plan, _, _, _, _, _, _, _, _, ⟨stage, _, stays, _⟩ | ⟨_, _, gone, _⟩⟩ :=
        opened.happen_cases act (run.sound index)
      · exact .inl ⟨_, stays, rfl, rfl, stage, by rw [isNext]⟩
      · exact .inr gone
  | step _ inductionHypothesis =>
      rcases inductionHypothesis with leads | gone
      · exact leads.next
      · exact .inr (gone_later gone (Nat.le_succ _))

/-- Who leads a load has started it. -/
theorem Leads.opened (leads : run.Leads index id key ticket) :
    ∃ earlier < index, run.Opens earlier id key ticket := by
  induction index with
  | zero =>
      obtain ⟨leader, present, _⟩ := leads
      cases present
  | succ index inductionHypothesis =>
      obtain ⟨after, present, rfl, rfl, leadsAfter⟩ := leads
      rcases (run.effect index).leader_origin (run.sound index) present leadsAfter with
        ⟨before, beforePresent, sameId, sameKey, leadsBefore⟩ | ⟨opened, isNext⟩
      · obtain ⟨earlier, isEarlier, opens⟩ :=
          inductionHypothesis ⟨before, beforePresent, sameId, sameKey, leadsBefore⟩
        exact ⟨earlier, Nat.lt_succ_of_lt isEarlier, opens⟩
      · exact ⟨index, Nat.lt_succ_self _, opened, isNext⟩

/-- A caller that starts a load was told that the one before gave nothing, if it
was there at all. -/
theorem Opens.toldNothing (opens : run.Opens index id key ticket) {caller : Caller κ σ ρ}
    (present : caller ∈ (run.state index).callers) (isCaller : caller.id = id) :
    caller.phase = .told none := by
  obtain ⟨⟨⟨plan, base, entrant⟩, _⟩, _⟩ := opens
  rcases entrant.stays_or_enters (run.sound index) present with ⟨_, differs⟩ | ⟨told, _⟩
  · exact absurd isCaller differs
  · exact told

/-- Who is gone starts nothing. -/
theorem Opens.not_gone (opens : run.Opens index id key ticket) : ¬ (run.state index).Gone id := by
  rintro ⟨numbered, absent⟩
  obtain ⟨⟨⟨plan, base, entrant⟩, _⟩, _⟩ := opens
  rcases entrant.numbered with ⟨isNew, _⟩ | ⟨_, caller, present, isCaller, _⟩
  · exact Nat.ne_of_lt numbered isNew
  · exact absent caller present isCaller

/-- A caller starts one load in its life. -/
theorem Opens.once {otherIndex other : Nat} {otherKey : String}
    (opens : run.Opens index id key ticket) (also : run.Opens otherIndex id otherKey other) :
    index = otherIndex ∧ key = otherKey ∧ ticket = other := by
  have notLater : ∀ {first second firstTicket secondTicket firstKey secondKey},
      run.Opens first id firstKey firstTicket → run.Opens second id secondKey secondTicket →
      ¬ first < second := by
    intro first second firstTicket secondTicket firstKey secondKey earlier again before
    rcases earlier.since before with ⟨leader, present, isLeader, _, leads⟩ | gone
    · rw [again.toldNothing present isLeader] at leads
      exact absurd leads Phase.not_leads_told
    · exact again.not_gone gone
  have sameTime : index = otherIndex :=
    Nat.le_antisymm (Nat.le_of_not_lt (notLater also opens))
      (Nat.le_of_not_lt (notLater opens also))
  subst sameTime
  exact ⟨rfl, (opens.asks.unique also.asks).2, opens.2.trans also.2.symm⟩

/-- Nobody leads a load of the key when one starts. -/
theorem Opens.alone (opens : run.Opens index id key ticket) :
    ∀ caller ∈ (run.state index).callers, caller.key = key → caller.phase.isLeading = false := by
  rintro caller present rfl
  cases leading : caller.phase.isLeading with
  | false => rfl
  | true =>
      obtain ⟨own, leads⟩ := Phase.isLeading_iff.mp leading
      have recorded := (run.sound index).recorded caller present own (Phase.ticket?_of_leads leads)
      exact absurd rfl (opens.1.2 _ recorded)

/-- A ticket is given to one load. -/
theorem Opens.sameTicket {otherIndex otherId : Nat} {otherKey : String}
    (opens : run.Opens index id key ticket)
    (also : run.Opens otherIndex otherId otherKey ticket) :
    otherIndex = index ∧ otherId = id ∧ otherKey = key := by
  have notLater : ∀ {first second firstId secondId firstKey secondKey},
      run.Opens first firstId firstKey ticket → run.Opens second secondId secondKey ticket →
      ¬ first < second := by
    intro first second firstId secondId firstKey secondKey earlier again before
    have issued := earlier.issued
    have grown : (run.state (first + 1)).nextTicket ≤ (run.state second).nextTicket :=
      run.nextTicket_le before
    have isSecond := again.2
    omega
  have sameTime : otherIndex = index :=
    Nat.le_antisymm (Nat.le_of_not_lt (notLater opens also))
      (Nat.le_of_not_lt (notLater also opens))
  subst sameTime
  exact ⟨rfl, also.asks.unique opens.asks⟩

/-- A caller that leads a load or is gone starts none. -/
theorem AtStage.not_opens {stage : σ} (stands : run.AtStage index id key ticket stage)
    (otherKey : String) (other : Nat) : ¬ run.Opens index id otherKey other := by
  intro opens
  rcases stands with ⟨caller, present, isCaller, _, phase⟩ | gone
  · rw [opens.toldNothing present isCaller] at phase
    cases phase
  · exact opens.not_gone gone

/-- A caller that starts a load is at the stage where it is blocked, or gone. -/
theorem Opens.atStage (opens : run.Opens index id key ticket) (stage : σ)
    (blocked : ∀ plan base, Flight.Entrant loads (run.state index) (run.happening index) id key
      plan base → ∀ other, (loads.start base.world key plan).2.2 = .blocked other → other = stage) :
    run.AtStage (index + 1) id key ticket stage := by
  obtain ⟨opened, isNext⟩ := opens
  obtain ⟨plan, base, entrant, _, world, calls, progress, started, _,
    ⟨other, rfl, stays, _⟩ | ⟨_, _, gone, _⟩⟩ := opened.happen_cases act (run.sound index)
  · obtain rfl := blocked plan base entrant other (by rw [started])
    exact .inl ⟨_, stays, rfl, rfl, by rw [isNext]⟩
  · exact .inr gone

/-- A caller that starts a load that ends at once is gone. -/
theorem Opens.gone (opens : run.Opens index id key ticket)
    (ends : ∀ plan base, Flight.Entrant loads (run.state index) (run.happening index) id key
      plan base → (loads.start base.world key plan).2.2.ending? ≠ none) :
    (run.state (index + 1)).Gone id := by
  obtain ⟨plan, base, entrant, _, world, calls, progress, started, _,
    ⟨stage, rfl, _⟩ | ⟨_, _, gone, _⟩⟩ := opens.1.happen_cases act (run.sound index)
  · have blocked := ends plan base entrant
    rw [started] at blocked
    exact absurd rfl blocked
  · exact gone

/-! ## Calls -/

theorem calls_succ (run : Run loads act) (id index : Nat) :
    run.calls id (index + 1) =
      run.calls id index ++ (run.notices index).filterMap (Notice.callOf? id) :=
  rfl

/-- A caller that is not seen to call anything calls nothing. -/
theorem calls_of_uncalled (uncalled : ∀ call, .called id call ∉ run.notices index) :
    run.calls id (index + 1) = run.calls id index := by
  have nothing : (run.notices index).filterMap (Notice.callOf? id) = [] := by
    refine List.filterMap_eq_nil_iff.mpr fun notice mem => ?_
    cases notice with
    | ended caller key ending => rfl
    | called caller call =>
        refine if_neg ?_
        rintro rfl
        exact uncalled call mem
  rw [calls_succ, nothing, List.append_nil]

/-- A caller that is not seen calls nothing. -/
theorem calls_of_silent (silent : ∀ notice ∈ run.notices index, notice.caller ≠ id) :
    run.calls id (index + 1) = run.calls id index :=
  calls_of_uncalled fun _ called => silent _ called rfl

/-- A caller that is never seen to call anything has called nothing. -/
theorem calls_eq_nil (uncalled : ∀ earlier < index, ∀ call, .called id call ∉ run.notices earlier) :
    run.calls id index = [] := by
  induction index with
  | zero => rfl
  | succ index inductionHypothesis =>
      have nothing : run.calls id index = [] :=
        inductionHypothesis fun earlier before => uncalled earlier (Nat.lt_succ_of_lt before)
      rw [calls_of_uncalled (uncalled index (Nat.lt_succ_self _)), nothing]

/-- A load that is seen to make calls makes these calls. -/
theorem calls_of_called {calls : List γ} (only : run.notices index = calls.map (.called id)) :
    run.calls id (index + 1) = run.calls id index ++ calls := by
  rw [calls_succ, only, Notice.filterMap_called]

/-- A load that is seen to make calls and to end makes these calls. -/
theorem calls_of_called_ended {calls : List γ} {ending : Ending ρ}
    (only : run.notices index = calls.map (.called id) ++ [.ended id key ending]) :
    run.calls id (index + 1) = run.calls id index ++ calls := by
  rw [calls_succ, only, List.filterMap_append, Notice.filterMap_called]
  exact congrArg _ (List.append_nil _)

/-- A load that starts calls what its start calls. -/
theorem Opens.calls (opens : run.Opens index id key ticket) :
    ∃ plan base,
      Flight.Entrant loads (run.state index) (run.happening index) id key plan base ∧
        run.calls id (index + 1) = run.calls id index ++ (loads.start base.world key plan).2.1 := by
  obtain ⟨plan, base, entrant, _, world, calls, progress, started, _,
    ⟨_, _, _, only⟩ | ⟨ending, _, _, _, only⟩⟩ := opens.1.happen_cases act (run.sound index)
  · refine ⟨plan, base, entrant, ?_⟩
    rw [started]
    exact calls_of_called only
  · refine ⟨plan, base, entrant, ?_⟩
    rw [started]
    exact calls_of_called_ended only

/-- A caller that leads no load and starts none calls nothing, and leads none
then. -/
theorem calls_of_follows
    (follows : ∀ caller ∈ (run.state index).callers, caller.id = id →
      caller.phase.isLeading = false)
    (starts : ∀ key ticket, ¬ run.Opens index id key ticket) :
    run.calls id (index + 1) = run.calls id index ∧
      ∀ caller ∈ (run.state (index + 1)).callers, caller.id = id →
        caller.phase.isLeading = false := by
  constructor
  · refine calls_of_uncalled fun call called => ?_
    rcases (run.effect index).called called with ⟨key, opened⟩ | ⟨leader, present, rfl, leading⟩
    · exact starts key _ ⟨opened, rfl⟩
    · rw [follows leader present rfl] at leading
      cases leading
  · rintro after present rfl
    cases leading : after.phase.isLeading with
    | false => rfl
    | true =>
        obtain ⟨ticket, leads⟩ := Phase.isLeading_iff.mp leading
        rcases (run.effect index).leader_origin (run.sound index) present leads with
          ⟨before, beforePresent, sameId, _, leadsBefore⟩ | ⟨opened, isNext⟩
        · have leadingBefore := Phase.isLeading_iff.mpr ⟨ticket, leadsBefore⟩
          rw [follows before beforePresent sameId] at leadingBefore
          cases leadingBefore
        · exact absurd ⟨opened, isNext⟩ (starts after.key ticket)

end Run

end RingCache
