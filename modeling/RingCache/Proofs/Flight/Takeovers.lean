import Mathlib.Data.Nat.Find
import RingCache.Flight.Session
import RingCache.Proofs.Flight.Sharing

/-!
# Loads that are abandoned, and who takes over

A load that ends without a result, since its leader was cancelled or it crashed, ends
for nobody but its leader (`Run.Abandons`). Who waited for it is told that it gave
nothing, and asks anew when its turn comes (`ToldNothing.since`); the first to ask finds
no record and starts a load of its own. As long as this load is in flight, everybody
else of the key who asks waits for it (`Run.Succeeds`). Since a caller starts at most one
load in its life, a chain of loads that are abandoned is no longer than the callers it
goes through (`Confines.card_le`).

Who was told does not wait for the new load when that has ended before its turn comes.
Then it asks as everybody else does, and may start a load as well.
-/

namespace RingCache.Run

variable {ω κ σ γ ρ α : Type} {loads : Loads ω κ σ γ ρ} {act : ω → α → ω}

/-- Whether the load of a key with a ticket ends without a result: its leader is
cancelled, or it crashes. -/
def Abandons (run : Run loads act) (index id : Nat) (key : String) (ticket : Nat) : Prop :=
  ∃ ending, ending.result? = none ∧ run.Ends index id key ticket ending

/-- Whether a caller of a key was told that a load gave nothing, and has not gone on. -/
def ToldNothing (run : Run loads act) (index id : Nat) (key : String) : Prop :=
  ∃ caller ∈ (run.state index).callers,
    caller.id = id ∧ caller.key = key ∧ caller.phase = .told none

/-- Whether a caller of a key is cancelled by its number, and nothing else is seen. -/
def Withdraws (run : Run loads act) (index id : Nat) (key : String) : Prop :=
  run.notices index = [.ended id key .cancelled] ∧ run.happening index = .withdraw id

/-- Whether a caller is the first to ask for a key from a time on. -/
def FirstAsks (run : Run loads act) (since index id : Nat) (key : String) : Prop :=
  since ≤ index ∧ run.Asks index id key ∧
    ∀ between, since ≤ between → between < index → ∀ other, ¬ run.Asks between other key

/-- Whether all callers of a key from one time to another are among these. -/
def Confines (run : Run loads act) (first last : Nat) (key : String) (callers : Finset Nat) :
    Prop :=
  (∀ caller ∈ (run.state first).callers, caller.key = key → caller.id ∈ callers) ∧
    ∀ between, first ≤ between → between < last → ∀ id, run.Comes between id key → id ∈ callers

variable {run : Run loads act} {index later id leader ticket : Nat} {key : String}

/-! ## Loads that are abandoned -/

/-- When the leader of a load is cancelled, the load is abandoned. -/
theorem abandons_of_cancelled {caller : Caller κ σ ρ}
    (leading : caller ∈ (run.state index).callers) (leads : caller.phase.leads ticket)
    (cancelled : run.happening index = .event (.cancelLeader caller.key)) :
    run.Abandons index caller.id caller.key ticket := by
  have found := (run.sound index).leader?_of_leads leading
    (Phase.isLeading_iff.mpr ⟨ticket, leads⟩)
  have ended : .ended caller.id caller.key .cancelled ∈ run.notices index := by
    obtain ⟨id, key, plan, phase⟩ := caller
    obtain ⟨stage, rfl⟩ := leads
    rw [notices, cancelled, Flight.happen, Flight.apply, Flight.cancelLeader, found]
    exact List.mem_singleton_self _
  exact ⟨.cancelled, rfl, ended, .inl ⟨caller, leading, rfl, rfl, leads⟩⟩

/-- When a load crashes, it is abandoned. -/
theorem abandons_of_crashed {caller : Caller κ σ ρ} {stage : σ} {outcome : Outcome}
    (leading : caller ∈ (run.state index).callers) (leads : caller.phase = .leading ticket stage)
    (finished : run.happening index = .event (.finish caller.key outcome))
    (crashed : (loads.resume (run.state index).world caller.key caller.plan stage outcome).2.2 =
      .crashed) : run.Abandons index caller.id caller.key ticket := by
  obtain ⟨world, calls, progress, resumed, _, ⟨later, blocked, _⟩ | ⟨ending, ends, _, only⟩⟩ :=
    (run.effect index).fate_of_finished (run.sound index) leading leads finished
  · rw [resumed, blocked] at crashed
    cases crashed
  · rw [resumed] at crashed
    obtain rfl : progress = .crashed := crashed
    obtain rfl : .crashed = ending := Option.some.inj ends
    have ended : .ended caller.id caller.key .crashed ∈ run.notices index := by
      rw [only]
      exact List.mem_append_right _ (List.mem_singleton_self _)
    exact ⟨.crashed, rfl, ended, .inl ⟨caller, leading, rfl, rfl, stage, leads⟩⟩

/-- Nobody ever receives a result of a load that was abandoned. -/
theorem Abandons.not_receives (abandons : run.Abandons index leader key ticket) {other id : Nat}
    {otherKey : String} {result : ρ} : ¬ run.Receives other id otherKey ticket result := by
  intro receives
  obtain ⟨ending, gaveNothing, ends⟩ := abandons
  obtain ⟨earlier, publisher, publishes, _⟩ := receives.published
  obtain ⟨_, _, _, rfl⟩ := ends.once publishes.ends
  cases gaveNothing

/-- All that is seen when a load ends is of its leader, who is gone then. -/
theorem Ends.alone {ending : Ending ρ} (ends : run.Ends index leader key ticket ending) :
    (∀ notice ∈ run.notices index, notice.caller = leader) ∧
      (run.state (index + 1)).Gone leader := by
  have still : run.Leads (index + 1) leader key ticket ∨ (run.state (index + 1)).Gone leader := by
    rcases ends.2 with leads | opens
    · exact leads.next
    · exact opens.since (Nat.lt_succ_self index)
  refine ⟨fun notice mem => (run.effect index).noticed_once mem ends.1, ?_⟩
  rcases still with ⟨caller, present, _, _, leads⟩ | gone
  · exact absurd (Phase.ticket?_of_leads leads)
      (ends.unheld (Nat.lt_succ_self index) caller present)
  · exact gone

/-- Who waits for the key of a load that is abandoned is told that it gave nothing. -/
theorem Abandons.toldNothing (abandons : run.Abandons index leader key ticket)
    {waiter : Caller κ σ ρ} (present : waiter ∈ (run.state index).callers)
    (sameKey : waiter.key = key) (waiting : waiter.phase.isWaiting) :
    run.ToldNothing (index + 1) waiter.id key := by
  obtain ⟨ending, gaveNothing, ends⟩ := abandons
  obtain ⟨told, _⟩ := (ends.waits present sameKey waiting).learns_next ends
  rw [gaveNothing] at told
  exact told

/-- Who was told that a load gave nothing waited for one that was abandoned. -/
theorem ToldNothing.abandoned (told : run.ToldNothing index id key) :
    ∃ earlier leader ticket, earlier < index ∧ run.Abandons earlier leader key ticket ∧
      run.Waits earlier id key ticket := by
  induction index with
  | zero =>
      obtain ⟨caller, present, _⟩ := told
      cases present
  | succ index inductionHypothesis =>
      obtain ⟨after, present, rfl, rfl, phase⟩ := told
      rcases (run.effect index).told_origin (run.sound index) present phase with
        already | ⟨ticket, waiter, waiting, sameId, sameKey, waits, leader, leading, leads, ending,
          ended, given⟩
      · obtain ⟨earlier, leader, ticket, isEarlier, abandons, waits⟩ :=
          inductionHypothesis ⟨after, already, rfl, rfl, phase⟩
        exact ⟨earlier, leader, ticket, Nat.lt_succ_of_lt isEarlier, abandons, waits⟩
      · have leaderKey : leader.key = after.key :=
          ((run.sound index).leader_key leading leads waiting waits).trans sameKey
        rw [leaderKey] at ended
        exact ⟨index, leader.id, ticket, Nat.lt_succ_self _,
          ⟨ending, given, ended, .inl ⟨leader, leading, rfl, leaderKey, leads⟩⟩,
          waiter, waiting, sameId, sameKey, waits⟩

/-! ## Callers that go on -/

/-- Who asks has just come, or was told that a load gave nothing. -/
theorem Asks.cases (asks : run.Asks index id key) :
    run.Comes index id key ∨ run.ToldNothing index id key := by
  obtain ⟨plan, base, entrant⟩ := asks
  generalize happened : run.happening index = happening at entrant
  cases entrant with
  | fresh key plan missed => exact .inl ⟨rfl, plan, happened⟩
  | woken caller present told => exact .inr ⟨caller, present, rfl, rfl, told⟩

/-- Who was told that a load gave nothing asks when it goes on, unless somebody
cancels it first. -/
theorem ToldNothing.next (told : run.ToldNothing index id key) :
    run.ToldNothing (index + 1) id key ∨ run.Asks index id key ∨ run.Withdraws index id key := by
  obtain ⟨caller, present, rfl, rfl, phase⟩ := told
  rcases (run.effect index).fate_of_toldNothing (run.sound index) present phase with
    ⟨stays, _⟩ | ⟨base, entrant⟩ | ⟨_, only, withdrawn⟩
  · exact .inl ⟨caller, stays, rfl, rfl, phase⟩
  · exact .inr (.inl ⟨caller.plan, base, entrant⟩)
  · exact .inr (.inr ⟨only, withdrawn⟩)

theorem ToldNothing.since (told : run.ToldNothing index id key) (after : index ≤ later) :
    run.ToldNothing later id key ∨ ∃ between, index ≤ between ∧ between < later ∧
      (run.Asks between id key ∨ run.Withdraws between id key) := by
  induction after with
  | refl => exact .inl told
  | @step last after inductionHypothesis =>
      rcases inductionHypothesis with still | ⟨between, since, before, goesOn⟩
      · rcases still.next with stays | goesOn
        · exact .inl stays
        · exact .inr ⟨last, after, Nat.lt_succ_self _, goesOn⟩
      · exact .inr ⟨between, since, Nat.lt_succ_of_lt before, goesOn⟩

/-- A caller that is there was there before, or has come for its key since. -/
theorem present_origin (after : index ≤ later) {caller : Caller κ σ ρ}
    (present : caller ∈ (run.state later).callers) :
    (∃ before ∈ (run.state index).callers, before.id = caller.id ∧ before.key = caller.key) ∨
      ∃ between, index ≤ between ∧ between < later ∧ run.Comes between caller.id caller.key := by
  induction after generalizing caller with
  | refl => exact .inl ⟨caller, present, rfl, rfl⟩
  | @step last after inductionHypothesis =>
      rcases (run.effect last).origin present with
        ⟨before, beforePresent, sameId, sameKey, _⟩ | ⟨isNew, _, ⟨base, entrant⟩, _⟩
      · rw [← sameId, ← sameKey]
        rcases inductionHypothesis beforePresent with old | ⟨between, since, isBefore, comes⟩
        · exact .inl old
        · exact .inr ⟨between, since, Nat.lt_succ_of_lt isBefore, comes⟩
      · have asks : run.Asks last caller.id caller.key := ⟨caller.plan, base, entrant⟩
        rcases asks.cases with comes | ⟨old, oldPresent, isOld, _⟩
        · exact .inr ⟨last, after, Nat.lt_succ_self _, comes⟩
        · have numbered := (run.sound last).callersNumbered old oldPresent
          exact absurd numbered (by omega)

theorem Comes.nextCaller_le (comes : run.Comes later id key) (after : index ≤ later) :
    (run.state index).nextCaller ≤ id :=
  comes.1 ▸ run.nextCaller_le after

/-- While its key has no record, all that a caller can be doing is to keep what it was
told. -/
theorem told_of_free {caller : Caller κ σ ρ} (present : caller ∈ (run.state index).callers)
    (free : ∀ record ∈ (run.state index).records, record.1 ≠ caller.key) :
    ∃ result, caller.phase = .told result := by
  cases phase : caller.phase with
  | leading own stage =>
      have recorded := (run.sound index).recorded caller present own (by rw [phase]; rfl)
      exact absurd rfl (free _ recorded)
  | waiting own =>
      have recorded := (run.sound index).recorded caller present own (by rw [phase]; rfl)
      exact absurd rfl (free _ recorded)
  | told result => exact ⟨result, rfl⟩

/-- Who asks for a key after it had no record was told nothing then, or has come since. -/
theorem Asks.origin (asks : run.Asks later id key) (after : index ≤ later)
    (free : ∀ record ∈ (run.state index).records, record.1 ≠ key) :
    run.ToldNothing index id key ∨ (run.state index).nextCaller ≤ id := by
  rcases asks.cases with comes | ⟨caller, present, rfl, rfl, phase⟩
  · exact .inr (comes.nextCaller_le after)
  · rcases present_origin after present with
      ⟨before, beforePresent, sameId, sameKey⟩ | ⟨between, since, _, comes⟩
    · obtain ⟨result, told⟩ := told_of_free beforePresent (sameKey ▸ free)
      cases result with
      | none => exact .inl ⟨before, beforePresent, sameId, sameKey, told⟩
      | some result =>
          have isTold : run.Told index caller.id caller.key result :=
            ⟨before, beforePresent, sameId, sameKey, told⟩
          rcases isTold.since after with ⟨still, stillPresent, isStill, _, stillTold⟩ | ⟨gone, _⟩
          · obtain rfl := (run.sound later).sameCaller present stillPresent isStill.symm
            rw [phase] at stillTold
            cases stillTold
          · exact absurd rfl (gone.2 caller present)
    · exact .inr (comes.nextCaller_le since)

/-! ## The first to ask -/

/-- Whoever asks, somebody is the first. -/
theorem exists_firstAsks {since : Nat} (after : since ≤ index) (asks : run.Asks index id key) :
    ∃ first ≤ index, ∃ other, run.FirstAsks since first other key := by
  classical
  have asked : ∃ moment, since ≤ moment ∧ ∃ other, run.Asks moment other key :=
    ⟨index, after, id, asks⟩
  obtain ⟨sinceThen, other, otherAsks⟩ := Nat.find_spec asked
  refine ⟨Nat.find asked, Nat.find_min' asked ⟨after, id, asks⟩, other, sinceThen, otherAsks, ?_⟩
  intro between isSince before another anotherAsks
  exact Nat.find_min asked before ⟨isSince, another, anotherAsks⟩

/-- The first to ask for a key without a record starts a load. -/
theorem FirstAsks.opens {since : Nat} (first : run.FirstAsks since index id key)
    (free : ∀ record ∈ (run.state since).records, record.1 ≠ key) :
    run.Opens index id key (run.state index).nextTicket := by
  obtain ⟨after, asks, unasked⟩ := first
  refine asks.opens (free_of_unopened free after ?_)
  intro between isSince before other own opens
  exact unasked between isSince before other opens.asks

/-- While a load is in flight, who waits for it goes on waiting, unless it is cancelled. -/
theorem Waits.remains (waits : run.Waits index id key ticket) (after : index ≤ later)
    (found : (key, ticket) ∈ (run.state later).records) :
    run.Waits later id key ticket ∨ ∃ between, index ≤ between ∧ between < later ∧
      .ended id key .cancelled ∈ run.notices between := by
  -- The record is there all the time, so that the load does not end.
  have unended : ∀ between, index ≤ between → between < later → ∀ {leader ending},
      ¬ run.Ends between leader key ticket ending := by
    intro between since before leader ending ends
    exact Nat.lt_irrefl _ (ends.ticket_lt before found)
  clear found
  induction after with
  | refl => exact .inl waits
  | @step last after inductionHypothesis =>
      rcases inductionHypothesis fun between since before => unended between since
          (Nat.lt_succ_of_lt before) with still | ⟨between, since, before, cancelled⟩
      · obtain ⟨waiter, present, rfl, rfl, phase⟩ := still
        have sound := run.sound last
        rcases (run.effect last).fate_of_waiting sound present phase with
          ⟨stays, _⟩ | ⟨leader, leading, leads, ending, ended, _⟩ | ⟨_, only⟩
        · exact .inl ⟨waiter, stays, rfl, rfl, phase⟩
        · have sameKey := sound.leader_key leading leads present phase
          rw [sameKey] at ended
          exact absurd ⟨ended, .inl ⟨leader, leading, rfl, sameKey, leads⟩⟩
            (unended last after (Nat.lt_succ_self _))
        · exact .inr ⟨last, after, Nat.lt_succ_self _, only ▸ List.mem_singleton_self _⟩
      · exact .inr ⟨between, since, Nat.lt_succ_of_lt before, cancelled⟩

/-! ## Taking over -/

/-- Whether a caller takes over a key whose load has ended at a time: of all who ask then
it is the first, and leads a load of its own that the others wait for. -/
structure Succeeds (run : Run loads act) (index next id : Nat) (key : String) (own : Nat) :
    Prop where
  first : run.FirstAsks (index + 1) next id key
  opens : run.Opens next id key own
  /-- It had been told that a load gave nothing, or has come since. -/
  origin : run.ToldNothing (index + 1) id key ∨ (run.state (index + 1)).nextCaller ≤ id
  /-- While its load is in flight, nobody else has started one. -/
  only : ∀ later, (key, own) ∈ (run.state later).records →
    ∀ between other ticket, index < between → between ≤ later →
      run.Opens between other key ticket → between = next ∧ other = id ∧ ticket = own
  /-- While its load is in flight, who asks waits for it. -/
  joined : ∀ later, (key, own) ∈ (run.state later).records → ∀ other, run.Asks later other key →
    run.Waits (later + 1) other key own ∧ run.notices later = []
  /-- While its load is in flight, who had been told that a load gave nothing waits for it,
  or has not gone on, unless it was cancelled. -/
  others : ∀ later, (key, own) ∈ (run.state later).records →
    ∀ other, run.ToldNothing (index + 1) other key → other ≠ id →
      run.Waits later other key own ∨ run.ToldNothing later other key ∨
        ∃ between, index < between ∧ between < later ∧
          .ended other key .cancelled ∈ run.notices between

/-- A load that starts has no record before. -/
theorem Opens.lt_of_recorded (opens : run.Opens index id key ticket)
    (found : (key, ticket) ∈ (run.state later).records) : index < later := by
  by_contra notAfter
  have issued := (run.sound later).ticketsIssued _ found
  have grown := run.nextTicket_le (Nat.le_of_not_lt notAfter)
  rw [opens.2] at issued
  exact Nat.lt_irrefl _ (Nat.lt_of_lt_of_le issued grown)

/-- Whoever is the first to ask for a key without a record takes it over. -/
theorem FirstAsks.succeeds {next : Nat} (first : run.FirstAsks (index + 1) next id key)
    (free : ∀ record ∈ (run.state (index + 1)).records, record.1 ≠ key) :
    run.Succeeds index next id key (run.state next).nextTicket := by
  have opens := first.opens free
  obtain ⟨after, asks, unasked⟩ := first
  have recorded : ∀ {later}, (key, (run.state next).nextTicket) ∈ (run.state later).records →
      ∀ {between}, next < between → between ≤ later →
        (key, (run.state next).nextTicket) ∈ (run.state between).records := by
    intro later found between isAfter before
    exact run.record_since before found
      (Nat.lt_of_lt_of_le opens.issued (run.nextTicket_le isAfter))
  refine ⟨⟨after, asks, unasked⟩, opens, asks.origin after free, ?_, ?_, ?_⟩
  · intro later found between other ticket since before alsoOpens
    rcases Nat.lt_trichotomy between next with earlier | rfl | isAfter
    · exact absurd alsoOpens.asks (unasked between since earlier other)
    · exact ⟨rfl, (alsoOpens.asks.unique asks).1, alsoOpens.2⟩
    · exact absurd rfl (alsoOpens.1.2 _ (recorded found isAfter before))
  · intro later found other otherAsks
    exact otherAsks.waits found
  · intro later found other told differs
    have isLater : index + 1 ≤ later := Nat.le_of_lt (Nat.lt_of_le_of_lt after
      (opens.lt_of_recorded found))
    rcases told.since isLater with still | ⟨between, since, before, otherAsks | ⟨only, _⟩⟩
    · exact .inr (.inl still)
    · rcases Nat.lt_trichotomy between next with earlier | rfl | isAfter
      · exact absurd otherAsks (unasked between since earlier other)
      · exact absurd (otherAsks.unique asks).1 differs
      · have waits := (otherAsks.waits (recorded found isAfter (Nat.le_of_lt before))).1
        rcases waits.remains before found with still | ⟨moment, sinceThen, isBefore, cancelled⟩
        · exact .inl still
        · exact .inr (.inr ⟨moment, by omega, isBefore, cancelled⟩)
    · exact .inr (.inr ⟨between, since, before, only ▸ List.mem_singleton_self _⟩)

/-- What follows when the load of a key with a ticket has ended without a result. -/
structure TakenOver (run : Run loads act) (index leader : Nat) (key : String) (ticket : Nat) :
    Prop where
  /-- Nobody ever receives a result of this load. -/
  barren : ∀ other id otherKey result, ¬ run.Receives other id otherKey ticket result
  /-- Its leader ends cancelled or crashed. -/
  failed : .ended leader key .cancelled ∈ run.notices index ∨
    .ended leader key .crashed ∈ run.notices index
  /-- The leader alone is seen, and is gone then. -/
  alone : (∀ notice ∈ run.notices index, notice.caller = leader) ∧
    (run.state (index + 1)).Gone leader
  /-- Everybody else is still there. -/
  kept : ∀ caller ∈ (run.state index).callers, caller.id ≠ leader →
    ∃ after ∈ (run.state (index + 1)).callers,
      after.id = caller.id ∧ after.key = caller.key ∧ after.plan = caller.plan
  /-- Who waited has been told that it gave nothing. -/
  woken : ∀ waiter ∈ (run.state index).callers, waiter.key = key → waiter.phase.isWaiting →
    run.ToldNothing (index + 1) waiter.id key
  /-- The key has no record. -/
  freed : ∀ record ∈ (run.state (index + 1)).records, record.1 ≠ key
  /-- Nobody ever leads this load or waits for it again. -/
  left : ∀ later, index < later → ∀ caller ∈ (run.state later).callers,
    caller.phase.ticket? ≠ some ticket
  /-- Who asks for the key starts a later load, or waits for one in flight. -/
  asked : ∀ later id, index < later → run.Asks later id key → ∃ own, ticket < own ∧
    (run.Opens later id key own ∨ ((key, own) ∈ (run.state later).records ∧
      run.Waits (later + 1) id key own ∧ run.notices later = []))
  /-- The first to ask takes over. -/
  succeeded : ∀ next id, run.FirstAsks (index + 1) next id key →
    run.Succeeds index next id key (run.state next).nextTicket
  /-- Once everybody who was told has gone on, each of those who were told has been cancelled
  or has asked, so that somebody has taken over. -/
  continued : ∀ later, index < later → (run.state later).told = [] →
    ∀ id, run.ToldNothing (index + 1) id key → ∃ between, index < between ∧ between < later ∧
      (run.Withdraws between id key ∨ (run.Asks between id key ∧
        ∃ next ≤ between, ∃ other own, run.Succeeds index next other key own))

theorem Abandons.takenOver (abandons : run.Abandons index leader key ticket) :
    run.TakenOver index leader key ticket := by
  obtain ⟨ending, gaveNothing, ends⟩ := abandons
  obtain ⟨_, freed, _⟩ := ends.spent
  refine ⟨?_, ?_, ends.alone, ?_, ?_, freed, ?_, ?_, ?_, ?_⟩
  · intro other id otherKey result
    exact Abandons.not_receives ⟨ending, gaveNothing, ends⟩
  · cases ending with
    | returned result => cases gaveNothing
    | cancelled => exact .inl ends.1
    | crashed => exact .inr ends.1
  · intro caller present differs
    exact (run.effect index).stays_of_ended (run.sound index) present ends.1 differs
  · intro waiter present sameKey waiting
    exact Abandons.toldNothing ⟨ending, gaveNothing, ends⟩ present sameKey waiting
  · intro later after
    exact ends.unheld after
  · intro later id after asks
    by_cases recorded : ∃ own, (key, own) ∈ (run.state later).records
    · obtain ⟨own, found⟩ := recorded
      exact ⟨own, ends.ticket_lt after found, .inr ⟨found, asks.waits found⟩⟩
    · have opens := asks.opens fun record found sameKey => recorded ⟨record.2, sameKey ▸ found⟩
      exact ⟨_, ends.ticket_lt_opens opens after, .inl opens⟩
  · intro next id first
    exact first.succeeds freed
  · intro later after nobody id told
    rcases told.since (Nat.succ_le_of_lt after) with
      ⟨caller, stays, _, _, phase⟩ | ⟨between, since, before, asks | withdraws⟩
    · exact absurd nobody (Flight.told_ne_nil stays phase)
    · obtain ⟨next, isNext, other, first⟩ := exists_firstAsks since asks
      exact ⟨between, since, before, .inr ⟨asks, next, isNext, other, _, first.succeeds freed⟩⟩
    · exact ⟨between, since, before, .inl withdraws⟩

/-! ## Chains of loads -/

namespace Confines

variable {first last : Nat} {callers : Finset Nat}

/-- Whoever is there for the key is one of the callers. -/
theorem mem (confines : run.Confines first last key callers) (since : first ≤ index)
    (before : index ≤ last) {caller : Caller κ σ ρ} (present : caller ∈ (run.state index).callers)
    (sameKey : caller.key = key) : caller.id ∈ callers := by
  subst sameKey
  rcases present_origin since present with
    ⟨old, oldPresent, sameId, sameKey⟩ | ⟨between, isSince, isBefore, comes⟩
  · exact sameId ▸ confines.1 old oldPresent sameKey
  · exact confines.2 between isSince (Nat.lt_of_lt_of_le isBefore before) _ comes

/-- Whoever starts a load of the key is one of the callers. -/
theorem mem_of_opens (confines : run.Confines first last key callers) (since : first ≤ index)
    (before : index < last) (opens : run.Opens index id key ticket) : id ∈ callers := by
  rcases opens.asks.cases with comes | ⟨caller, present, rfl, sameKey, _⟩
  · exact confines.2 index since before id comes
  · exact confines.mem since (Nat.le_of_lt before) present sameKey

/-- There are no more loads than callers. -/
theorem card_le (confines : run.Confines first last key callers) {starts : Finset Nat}
    (started : ∀ moment ∈ starts, first ≤ moment ∧ moment < last ∧
      ∃ id own, run.Opens moment id key own) : starts.card ≤ callers.card := by
  choose! since before starter own opens using started
  refine Finset.card_le_card_of_injOn starter ?_ ?_
  · intro moment mem
    exact confines.mem_of_opens (since moment mem) (before moment mem) (opens moment mem)
  · intro moment mem other otherMem sameStarter
    have otherOpens := opens other otherMem
    rw [← sameStarter] at otherOpens
    exact ((opens moment mem).once otherOpens).1

/-- Once all the callers are gone, the key has no record. -/
theorem freed (confines : run.Confines first last key callers) (after : first ≤ last)
    (gone : ∀ id ∈ callers, (run.state last).Gone id) :
    ∀ record ∈ (run.state last).records, record.1 ≠ key := by
  rintro record found sameKey
  obtain ⟨leader, present, leaderKey, _⟩ := (run.sound last).led record found
  have isCaller := confines.mem after (Nat.le_refl _) present (leaderKey.trans sameKey)
  exact (gone _ isCaller).2 leader present rfl

end Confines

/-- When the leader of a load is cancelled or its load crashes, the load is abandoned and is
taken over (`TakenOver`). Whoever returns a result was answered at once or received it from a
load that was not abandoned; whoever ends crashed led a load that crashed; and whoever ends
cancelled was cancelled itself. A caller makes calls for a load that it has started, and starts
one load in its life. So callers of a key start no more loads than they are, and leave no
record when all of them are gone. -/
theorem abandoned_load_is_taken_over (run : Run loads act) :
    (∀ index ticket, ∀ leader ∈ (run.state index).callers, leader.phase.leads ticket →
      run.happening index = .event (.cancelLeader leader.key) →
      run.Abandons index leader.id leader.key ticket) ∧
    (∀ index ticket stage outcome, ∀ leader ∈ (run.state index).callers,
      leader.phase = .leading ticket stage →
      run.happening index = .event (.finish leader.key outcome) →
      (loads.resume (run.state index).world leader.key leader.plan stage outcome).2.2 = .crashed →
      run.Abandons index leader.id leader.key ticket) ∧
    (∀ index leader key ticket, run.Abandons index leader key ticket →
      run.TakenOver index leader key ticket) ∧
    (∀ index id key result, .ended id key (.returned result) ∈ run.notices index →
      run.Answers index id key result ∨ ∃ ticket, run.Receives index id key ticket result ∧
        ∀ other leader otherKey, ¬ run.Abandons other leader otherKey ticket) ∧
    (∀ index id key, .ended id key .crashed ∈ run.notices index →
      ∃ ticket, run.Ends index id key ticket .crashed) ∧
    (∀ index id key, .ended id key .cancelled ∈ run.notices index →
      (run.happening index = .event (.cancelLeader key) ∧
          ∃ ticket, run.Ends index id key ticket .cancelled) ∨
        run.happening index = .event (.cancelWaiter key) ∨ run.happening index = .withdraw id) ∧
    (∀ index id call, .called id call ∈ run.notices index →
      ∃ start ≤ index, ∃ key ticket, run.Opens start id key ticket) ∧
    (∀ index other id key otherKey ticket own, run.Opens index id key ticket →
      run.Opens other id otherKey own → index = other ∧ key = otherKey ∧ ticket = own) ∧
    ∀ first last key callers, first ≤ last → run.Confines first last key callers →
      (∀ starts : Finset Nat, (∀ moment ∈ starts, first ≤ moment ∧ moment < last ∧
        ∃ id own, run.Opens moment id key own) → starts.card ≤ callers.card) ∧
      ((∀ id ∈ callers, (run.state last).Gone id) →
        ∀ record ∈ (run.state last).records, record.1 ≠ key) := by
  refine ⟨?_, ?_, ?_, ?_, ?_, ?_, ?_, ?_, ?_⟩
  · intro index ticket leader leading leads cancelled
    exact abandons_of_cancelled leading leads cancelled
  · intro index ticket stage outcome leader leading leads finished crashed
    exact abandons_of_crashed leading leads finished crashed
  · intro index leader key ticket abandons
    exact abandons.takenOver
  · intro index id key result ended
    rcases receives_of_ended ended with answers | ⟨ticket, receives⟩
    · exact .inl answers
    · exact .inr ⟨ticket, receives, fun other leader otherKey abandons =>
        abandons.not_receives receives⟩
  · intro index id key ended
    rcases (run.effect index).ended ended with
      ⟨_, _, _, _, _, isResult, _⟩ | opened |
        ⟨caller, present, rfl, rfl, leading | ⟨_, _, isResult⟩ | ⟨_, isCancelled⟩⟩
    · cases isResult
    · exact ⟨_, ended, .inr ⟨opened, rfl⟩⟩
    · obtain ⟨ticket, leads⟩ := Phase.isLeading_iff.mp leading
      exact ⟨ticket, ended, .inl ⟨caller, present, rfl, rfl, leads⟩⟩
    · cases isResult
    · cases isCancelled
  · intro index id key ended
    rcases (run.effect index).cancelled ended with
      ⟨cancelled, leader, present, isLeader, sameKey, leading⟩ | others
    · obtain ⟨ticket, leads⟩ := Phase.isLeading_iff.mp leading
      exact .inl ⟨cancelled, ticket, ended, .inl ⟨leader, present, isLeader, sameKey, leads⟩⟩
    · exact .inr others
  · intro index id call called
    rcases (run.effect index).called called with ⟨key, opened⟩ | ⟨leader, present, rfl, leading⟩
    · exact ⟨index, Nat.le_refl _, key, _, opened, rfl⟩
    · obtain ⟨ticket, leads⟩ := Phase.isLeading_iff.mp leading
      obtain ⟨start, before, opens⟩ := Leads.opened ⟨leader, present, rfl, rfl, leads⟩
      exact ⟨start, Nat.le_of_lt before, leader.key, ticket, opens⟩
  · intro index other id key otherKey ticket own opens also
    exact opens.once also
  · intro first last key callers after confines
    exact ⟨fun starts started => confines.card_le started, confines.freed after⟩

/-- Two callers wait for a load that is cancelled. The first takes over when it goes on, and
the second waits for it. -/
theorem second_caller_takes_over :
    let happenings : List (Happening Unit Reply) := [.event (.start "k" .held),
      .event (.start "k" .held), .event (.start "k" .held), .event (.cancelLeader "k"),
      .wake 1, .wake 2]
    let run : Run Session.loads (fun world (_ : Unit) => world) :=
      ⟨(), fun index => happenings.getD index .nothing⟩
    run.Abandons 3 0 "k" 0 ∧ run.TakenOver 3 0 "k" 0 ∧
      (run.ToldNothing 4 1 "k" ∧ run.ToldNothing 4 2 "k") ∧ run.Succeeds 3 4 1 "k" 1 ∧
      run.Waits 6 2 "k" 1 := by
  intro happenings run
  have callers : (run.state 3).callers = [⟨0, "k", .held, .leading 0 ()⟩,
      ⟨1, "k", .held, .waiting 0⟩, ⟨2, "k", .held, .waiting 0⟩] := rfl
  have callersThen : (run.state 4).callers =
      [⟨1, "k", .held, .told none⟩, ⟨2, "k", .held, .told none⟩] := rfl
  have callersLater : (run.state 5).callers =
      [⟨2, "k", .held, .told none⟩, ⟨1, "k", .held, .leading 1 ()⟩] := rfl
  have recordsLater : (run.state 5).records = [("k", 1)] := rfl
  obtain ⟨cancelled, _, takenOver, _⟩ := abandoned_load_is_taken_over run
  have abandons : run.Abandons 3 0 "k" 0 :=
    cancelled 3 0 ⟨0, "k", .held, .leading 0 ()⟩ (by simp [callers]) ⟨(), rfl⟩ rfl
  have taken := takenOver 3 0 "k" 0 abandons
  have woken : ∀ id ∈ [1, 2], run.ToldNothing 4 id "k" := by
    intro id mem
    exact taken.woken ⟨id, "k", .held, .waiting 0⟩ (by simpa [callers] using mem) rfl rfl
  have present : ⟨1, "k", .held, .told none⟩ ∈ (run.state 4).callers := by simp [callersThen]
  have asks : run.Asks 4 1 "k" := ⟨.held, _, .woken _ present rfl⟩
  have first : run.FirstAsks (3 + 1) 4 1 "k" :=
    ⟨Nat.le_refl 4, asks, fun between since before => by omega⟩
  have issued : (run.state 4).nextTicket = 1 := rfl
  have succeeds := taken.succeeded 4 1 first
  rw [issued] at succeeds
  have presentLater : ⟨2, "k", .held, .told none⟩ ∈ (run.state 5).callers := by
    simp [callersLater]
  have waits := succeeds.joined 5 (by simp [recordsLater]) 2
    ⟨.held, _, .woken _ presentLater rfl⟩
  exact ⟨abandons, taken, ⟨woken 1 (by simp), woken 2 (by simp)⟩, succeeds, waits.1⟩

/-- If the load of the first waiter ends at once, the second has nothing left to wait for:
both start a load when the load that they wait for is cancelled. -/
theorem both_waiters_start_loads :
    let waiting : Session := (Flight.run Session.loads Session.empty
      [.start "k" .held, .start "k" (.now (.value [65])), .start "k" (.now (.value [65]))]).1
    let seen := (waiting.step (.cancelLeader "k")).2
    (∀ id ∈ [1, 2], ∃ waiter ∈ waiting.callers,
      waiter.id = id ∧ waiter.key = "k" ∧ waiter.phase.isWaiting) ∧
    .ended 0 "k" .cancelled ∈ seen ∧ ¬ ∃! id, .called id "k" ∈ seen := by
  intro waiting seen
  have callers : waiting.callers = [⟨0, "k", .held, .leading 0 ()⟩,
      ⟨1, "k", .now (.value [65]), .waiting 0⟩, ⟨2, "k", .now (.value [65]), .waiting 0⟩] := rfl
  have notices : seen = [.ended 0 "k" .cancelled,
      .called 1 "k", .ended 1 "k" (.returned (.ok [65])),
      .called 2 "k", .ended 2 "k" (.returned (.ok [65]))] := rfl
  rw [callers, notices]
  refine ⟨by simp [Phase.isWaiting], List.mem_cons_self, ?_⟩
  rintro ⟨id, called, only⟩
  have isFirst := only 1 (by simp)
  have isSecond := only 2 (by simp)
  omega

end RingCache.Run
