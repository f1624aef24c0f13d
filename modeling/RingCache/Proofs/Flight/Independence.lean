import Mathlib.Algebra.BigOperators.Group.Finset.Basic
import RingCache.Proofs.Flight.Lanes

/-!
# Keys do not affect each other

From a run in which callers ask for many keys, all that is about other keys than one can be
deleted: what is left is a run of its own (`Run.alone`), in which the callers of the key have
the numbers that they have among themselves. `Mirrors` relates the flights of the two runs: a
happening that is about the key does the same to both (`Mirrors.shows`), and any other one
does nothing to what the flight of all shows of the key (`Mirrors.rests`). So nothing that can
be seen of a key depends on the others (`Run.keys_are_independent`), whatever becomes of
their callers.
-/

namespace RingCache

variable {κ σ γ ρ α : Type} {loads : Loads Unit κ σ γ ρ} {act : Unit → α → Unit}

namespace Flight

/-- Whether a flight and what is seen of it show of a key what another flight shows of it,
where its callers have other numbers. -/
def Shows (key : String) (number : Nat → Nat)
    (whole alone : Flight Unit κ σ ρ × List (Notice γ ρ)) : Prop :=
  alone.1.lane key id = whole.1.lane key number ∧ alone.2 = whole.2.map (Notice.renumber number)

variable {key : String} {number : Nat → Nat} {whole alone : Flight Unit κ σ ρ}

/-! ## The same done to both flights -/

/-- Calls are seen of the same caller. -/
theorem Shows.called {one other : Flight Unit κ σ ρ × List (Notice γ ρ)}
    (shows : Shows key number one other) (id : Nat) (calls : List γ) :
    Shows key number (one.1, calls.map (.called id) ++ one.2)
      (other.1, calls.map (.called (number id)) ++ other.2) := by
  refine ⟨shows.1, ?_⟩
  rw [List.map_append, List.map_map, shows.2]
  rfl

/-- All who wait for the load of a recorded key wait for one. -/
theorem Sound.waits_for_recorded (sound : whole.Sound) {ticket : Nat}
    (recorded : (key, ticket) ∈ whole.records) :
    ∀ caller ∈ whole.callers, caller.key = key → ∀ own, caller.phase = .waiting own →
      own = ticket := by
  rintro caller present rfl own waits
  exact sound.sameTicket (sound.recorded caller present own (by rw [waits]; rfl)) recorded

/-- Nobody waits for a load of a key without a record. -/
theorem Sound.waits_for_missing (sound : whole.Sound)
    (missing : whole.records.lookup key = none) (ticket : Nat) :
    ∀ caller ∈ whole.callers, caller.key = key → ∀ own, caller.phase = .waiting own →
      own = ticket := by
  rintro caller present rfl own waits
  have recorded := sound.recorded caller present own (by rw [waits]; rfl)
  exact absurd rfl (free_of_lookup_eq_none missing _ recorded)

/-- A load that has come so far in both flights goes on, or ends, in both. -/
theorem shows_land (lanes : alone.lane key id = whole.lane key number) {id ticket own : Nat}
    {plan : κ}
    (held : ∀ caller ∈ whole.callers, caller.key = key → ∀ other,
      caller.phase = .waiting other → other = ticket)
    (heldAlone : ∀ caller ∈ alone.callers, caller.key = key → ∀ other,
      caller.phase = .waiting other → other = own) (progress : Progress σ ρ) :
    Shows key number
      (whole.land id key plan ticket progress : Flight Unit κ σ ρ × List (Notice γ ρ))
      (alone.land (number id) key plan own progress) := by
  cases progress with
  | blocked stage =>
      refine ⟨?_, rfl⟩
      rw [land, land, lane_add_own rfl, lane_add_own rfl, lanes]
      rfl
  | returned result =>
      refine ⟨?_, rfl⟩
      rw [land, land, lane_release_own held, lane_release_own heldAlone, lanes]
  | crashed =>
      refine ⟨?_, rfl⟩
      rw [land, land, lane_release_own held, lane_release_own heldAlone, lanes]

/-- Whether a key has a record shows in its lane. -/
theorem recorded_iff_of_lanes (wholeSound : whole.Sound) (aloneSound : alone.Sound)
    (lanes : alone.lane key id = whole.lane key number) :
    key ∈ alone.records.map Prod.fst ↔ key ∈ whole.records.map Prod.fst := by
  rw [wholeSound.recorded_iff_lane number, aloneSound.recorded_iff_lane id, lanes]

/-- A caller that enters waits in both flights, or starts a load in both. -/
theorem shows_enter (wholeSound : whole.Sound) (aloneSound : alone.Sound)
    (lanes : alone.lane key id = whole.lane key number) (id : Nat) (plan : κ) :
    Shows key number (whole.enter loads id key plan) (alone.enter loads (number id) key plan) := by
  have sameMissing : alone.records.lookup key = none ↔ whole.records.lookup key = none := by
    rw [lookup_eq_none_iff, lookup_eq_none_iff,
      recorded_iff_of_lanes wholeSound aloneSound lanes]
  cases wholeFound : whole.records.lookup key with
  | some ticket =>
      obtain ⟨own, aloneFound⟩ : ∃ own, alone.records.lookup key = some own := by
        refine Option.ne_none_iff_exists'.mp fun missing => ?_
        rw [sameMissing.mp missing] at wholeFound
        cases wholeFound
      rw [enter_waiting wholeFound, enter_waiting aloneFound]
      refine ⟨?_, rfl⟩
      rw [lane_add_own rfl, lane_add_own rfl, lanes]
      rfl
  | none =>
      have aloneFound := sameMissing.mpr wholeFound
      rw [enter, enter, wholeFound, aloneFound]
      refine (shows_land ?_ ?_ ?_ _).called id _
      · exact lanes
      · exact wholeSound.waits_for_missing wholeFound _
      · exact aloneSound.waits_for_missing aloneFound _

/-- Whether a flight into which only callers of a key come shows of the key what a flight
shows of it into which callers of all these keys have come. -/
structure Mirrors (key : String) (asked : List String) (whole alone : Flight Unit κ σ ρ) :
    Prop where
  wholeSound : whole.Sound
  aloneSound : alone.Sound
  wholeNumbered : whole.Numbered asked
  aloneNumbered : alone.Numbered (List.replicate (asked.count key) key)
  lanes : alone.lane key id = whole.lane key (rank key asked)

namespace Mirrors

variable {asked : List String}

/-- Flights without callers show nothing. -/
theorem empty (key : String) :
    Mirrors key [] ({ world := () } : Flight Unit κ σ ρ) { world := () } where
  wholeSound := .empty ()
  aloneSound := .empty ()
  wholeNumbered := ⟨rfl, fun _ present => nomatch present⟩
  aloneNumbered := ⟨rfl, fun _ present => nomatch present⟩
  lanes := rfl

variable (mirrors : Mirrors key asked whole alone)
include mirrors

/-- The lanes do not depend on who comes later. -/
theorem lanes_append (later : List String) :
    alone.lane key id = whole.lane key (rank key (asked ++ later)) := by
  rw [mirrors.lanes]
  refine lane_congr fun caller present _ => (rank_append ?_ later).symm
  rw [mirrors.wholeNumbered.length_eq]
  exact Nat.le_of_lt (mirrors.wholeSound.callersNumbered caller present)

/-- Nobody else is in the flight of the key. -/
theorem key_eq {caller : Caller κ σ ρ} (present : caller ∈ alone.callers) : caller.key = key := by
  have keyed := mirrors.aloneNumbered.keyed caller present
  obtain ⟨within, isKey⟩ := List.getElem?_eq_some_iff.mp keyed
  rw [← isKey, List.getElem_replicate]

/-- A caller of the key that has this number is this caller. -/
theorem unique {id : Nat} (about : asked[id]? = some key) :
    ∀ caller ∈ whole.callers, caller.key = key → rank key asked caller.id = rank key asked id →
      caller.id = id := by
  intro caller present isKey same
  exact eq_of_rank_eq (isKey ▸ mirrors.wholeNumbered.keyed caller present) about same

/-- A caller of the key goes from both flights. -/
theorem lanes_remove {id : Nat} (about : asked[id]? = some key) :
    (alone.remove (rank key asked id)).lane key (fun own => own) =
      (whole.remove id).lane key (rank key asked) := by
  rw [lane_remove_own (mirrors.unique about), lane_remove_own fun _ _ _ same => same]
  exact congrArg _ mirrors.lanes

/-- Who is found in one flight by what lanes show is found in the other, and differs only in
the ticket. -/
theorem found_both (shows : Caller κ σ ρ → Bool) {wholeFinds aloneFinds : Caller κ σ ρ → Bool}
    (inWhole : ∀ caller ∈ whole.callers,
      (caller.key == key && shows (caller.shown (rank key asked))) = wholeFinds caller)
    (inAlone : ∀ caller ∈ alone.callers,
      (caller.key == key && shows (caller.shown id)) = aloneFinds caller) :
    (whole.callers.find? wholeFinds = none ∧ alone.callers.find? aloneFinds = none) ∨
      ∃ caller phase, whole.callers.find? wholeFinds = some caller ∧
        alone.callers.find? aloneFinds =
          some ⟨rank key asked caller.id, caller.key, caller.plan, phase⟩ ∧
        phase.bare = caller.phase.bare := by
  have same : (alone.callers.find? aloneFinds).map (Caller.shown id) =
      (whole.callers.find? wholeFinds).map (Caller.shown (rank key asked)) := by
    rw [← find?_lane inWhole, ← find?_lane inAlone, mirrors.lanes]
  cases found : whole.callers.find? wholeFinds with
  | none =>
      rw [found] at same
      exact .inl ⟨rfl, Option.map_eq_none_iff.mp same⟩
  | some caller =>
      rw [found] at same
      obtain ⟨⟨number, ownKey, plan, phase⟩, foundAlone, isShown⟩ :=
        Option.map_eq_some_iff.mp same
      obtain ⟨sameNumber, sameKey, samePlan, samePhase⟩ := Caller.mk.inj isShown
      refine .inr ⟨caller, phase, rfl, ?_, samePhase⟩
      rw [foundAlone, ← sameNumber, ← sameKey, ← samePlan]
      rfl

/-- The same caller leads a load of the key in both flights, if one does. -/
theorem leader_both :
    (whole.leader? key = none ∧ alone.leader? key = none) ∨
      ∃ id plan ticket own stage,
        whole.leader? key = some ⟨id, key, plan, .leading ticket stage⟩ ∧
        alone.leader? key = some ⟨rank key asked id, key, plan, .leading own stage⟩ := by
  rcases mirrors.found_both (fun caller => caller.phase.isLeading)
    (fun caller _ => by rw [Caller.shown, Phase.isLeading_bare])
    (fun caller _ => by rw [Caller.shown, Phase.isLeading_bare]) with
    neither | ⟨⟨id, ownKey, plan, phase⟩, ownPhase, found, foundAlone, samePhase⟩
  · exact .inl neither
  · obtain ⟨_, rfl, ticket, stage, rfl⟩ := Sound.leader?_eq_some found
    obtain ⟨own, rfl⟩ := Phase.eq_leading_of_bare samePhase
    exact .inr ⟨id, plan, ticket, own, stage, found, foundAlone⟩

/-! ## Happenings that are about the key -/

/-- A new caller of the key. -/
theorem shows_ask (plan : κ) :
    Shows key (rank key (asked ++ [key])) (whole.ask loads key plan)
      (alone.ask loads key plan) := by
  have sameNumber : alone.nextCaller = rank key (asked ++ [key]) whole.nextCaller := by
    rw [← mirrors.wholeNumbered.length_eq, rank_append (Nat.le_refl _), rank_length,
      ← mirrors.aloneNumbered.length_eq, List.length_replicate]
  have lanes := mirrors.lanes_append [key]
  rw [ask, ask]
  cases greeted : (loads.greet whole.world key plan).2 with
  | some result =>
      exact ⟨lanes, by rw [sameNumber]; rfl⟩
  | none =>
      have numbersGrow : alone.nextCaller ≤ rank key (asked ++ [key]) whole.nextCaller + 1 := by
        rw [sameNumber]
        exact Nat.le_succ _
      dsimp only
      rw [sameNumber]
      refine shows_enter ?_ ?_ ?_ whole.nextCaller plan
      · exact mirrors.wholeSound.later _ (Nat.le_refl _) (Nat.le_succ _)
      · exact mirrors.aloneSound.later _ (Nat.le_refl _) numbersGrow
      · exact lanes

/-- The call that the load of the key waits for. -/
theorem shows_finish (outcome : Outcome) :
    Shows key (rank key asked) (whole.finish loads key outcome)
      (alone.finish loads key outcome) := by
  rw [finish, finish]
  rcases mirrors.leader_both with ⟨missing, missingAlone⟩ |
    ⟨id, plan, ticket, own, stage, found, foundAlone⟩
  · rw [missing, missingAlone]
    exact ⟨mirrors.lanes, rfl⟩
  · rw [found, foundAlone]
    have present := (Sound.leader?_eq_some found).1
    have presentAlone := (Sound.leader?_eq_some foundAlone).1
    refine (shows_land ?_ ?_ ?_ _).called id _
    · exact mirrors.lanes_remove (mirrors.wholeNumbered.keyed _ present)
    · intro caller stays
      exact mirrors.wholeSound.waits_for_recorded (mirrors.wholeSound.recorded _ present _ rfl)
        caller (mem_callers_remove.mp stays).1
    · intro caller stays
      exact mirrors.aloneSound.waits_for_recorded
        (mirrors.aloneSound.recorded _ presentAlone _ rfl) caller (mem_callers_remove.mp stays).1

/-- The caller that leads the load of the key is cancelled. -/
theorem shows_cancelLeader :
    Shows key (rank key asked) (whole.cancelLeader key : Flight Unit κ σ ρ × List (Notice γ ρ))
      (alone.cancelLeader key) := by
  rw [cancelLeader, cancelLeader]
  rcases mirrors.leader_both with ⟨missing, missingAlone⟩ |
    ⟨id, plan, ticket, own, stage, found, foundAlone⟩
  · rw [missing, missingAlone]
    exact ⟨mirrors.lanes, rfl⟩
  · rw [found, foundAlone]
    have present := (Sound.leader?_eq_some found).1
    have presentAlone := (Sound.leader?_eq_some foundAlone).1
    refine ⟨?_, rfl⟩
    rw [lane_release_own, lane_release_own]
    · exact congrArg _ (mirrors.lanes_remove (mirrors.wholeNumbered.keyed _ present))
    · intro caller stays
      exact mirrors.wholeSound.waits_for_recorded (mirrors.wholeSound.recorded _ present _ rfl)
        caller (mem_callers_remove.mp stays).1
    · intro caller stays
      exact mirrors.aloneSound.waits_for_recorded
        (mirrors.aloneSound.recorded _ presentAlone _ rfl) caller (mem_callers_remove.mp stays).1

/-- A caller that waits for the load of the key is cancelled. -/
theorem shows_cancelWaiter :
    Shows key (rank key asked) (whole.cancelWaiter key : Flight Unit κ σ ρ × List (Notice γ ρ))
      (alone.cancelWaiter key) := by
  rw [cancelWaiter, cancelWaiter, waiter?, waiter?]
  rcases mirrors.found_both (fun caller => caller.phase.isWaiting)
    (fun caller _ => by rw [Caller.shown, Phase.isWaiting_bare])
    (fun caller _ => by rw [Caller.shown, Phase.isWaiting_bare]) with
    ⟨missing, missingAlone⟩ | ⟨caller, phase, found, foundAlone, _⟩
  · rw [missing, missingAlone]
    exact ⟨mirrors.lanes, rfl⟩
  · rw [found, foundAlone]
    have isWaiter := List.find?_some found
    obtain ⟨isKey, _⟩ : caller.key = key ∧ caller.phase.isWaiting := by simpa using isWaiter
    have keyed := mirrors.wholeNumbered.keyed caller (List.mem_of_find?_eq_some found)
    exact ⟨mirrors.lanes_remove (keyed.trans (congrArg some isKey)), rfl⟩

/-- The caller of the key with a number, if it is in such a phase. -/
theorem numbered_both {id : Nat} (about : asked[id]? = some key) (test : Phase σ ρ → Bool)
    (bare : ∀ phase, test phase.bare = test phase) :
    ((whole.callers.find? fun caller => caller.id == id && test caller.phase) = none ∧
        (alone.callers.find? fun caller =>
          caller.id == rank key asked id && test caller.phase) = none) ∨
      ∃ caller phase,
        (whole.callers.find? fun caller => caller.id == id && test caller.phase) = some caller ∧
        (alone.callers.find? fun caller =>
            caller.id == rank key asked id && test caller.phase) =
          some ⟨rank key asked caller.id, caller.key, caller.plan, phase⟩ ∧
        phase.bare = caller.phase.bare := by
  refine mirrors.found_both (fun caller => caller.id == rank key asked id && test caller.phase)
    ?_ ?_
  · intro caller present
    rw [Caller.shown, bare, Bool.eq_iff_iff]
    simp only [Bool.and_eq_true, beq_iff_eq]
    constructor
    · rintro ⟨isKey, same, passes⟩
      exact ⟨mirrors.unique about caller present isKey same, passes⟩
    · rintro ⟨rfl, passes⟩
      have keyed := mirrors.wholeNumbered.keyed caller present
      exact ⟨Option.some.inj (keyed.symm.trans about), rfl, passes⟩
  · intro caller present
    rw [Caller.shown, bare, mirrors.key_eq present, beq_self_eq_true, Bool.true_and]
    rfl

/-- A caller of the key that has been told goes on. -/
theorem shows_wake {id : Nat} (about : asked[id]? = some key) :
    Shows key (rank key asked) (whole.happen loads act (.wake id))
      (alone.happen loads act (.wake (rank key asked id))) := by
  rw [happen, happen]
  rcases mirrors.numbered_both about Phase.isTold (fun _ => Phase.isTold_bare) with
    ⟨missing, missingAlone⟩ | ⟨caller, phase, found, foundAlone, samePhase⟩
  · rw [missing, missingAlone]
    exact ⟨mirrors.lanes, rfl⟩
  · rw [found, foundAlone]
    have isTold := List.find?_some found
    obtain ⟨rfl, told⟩ : caller.id = id ∧ caller.phase.isTold := by simpa using isTold
    have present := List.mem_of_find?_eq_some found
    have presentAlone := List.mem_of_find?_eq_some foundAlone
    have isKey : caller.key = key :=
      Option.some.inj ((mirrors.wholeNumbered.keyed caller present).symm.trans about)
    obtain ⟨result, isPhase⟩ := Phase.isTold_iff.mp told
    rw [isPhase] at samePhase
    obtain rfl := Phase.eq_told_of_bare samePhase
    have lanes := mirrors.lanes_remove about
    dsimp only
    rw [wake, wake, isPhase]
    cases result with
    | some result => exact ⟨lanes, rfl⟩
    | none =>
        dsimp only
        rw [isKey]
        refine shows_enter ?_ ?_ lanes caller.id caller.plan
        · exact mirrors.wholeSound.remove present (by rw [isPhase]; rfl)
        · exact mirrors.aloneSound.remove presentAlone rfl

/-- A caller of the key that does not lead is cancelled. -/
theorem shows_withdraw {id : Nat} (about : asked[id]? = some key) :
    Shows key (rank key asked) (whole.happen loads act (.withdraw id))
      (alone.happen loads act (.withdraw (rank key asked id))) := by
  rw [happen, happen]
  rcases mirrors.numbered_both about (fun phase => !phase.isLeading)
    (fun _ => by rw [Phase.isLeading_bare]) with
    ⟨missing, missingAlone⟩ | ⟨caller, phase, found, foundAlone, _⟩
  · rw [missing, missingAlone]
    exact ⟨mirrors.lanes, rfl⟩
  · rw [found, foundAlone]
    have isFollower := List.find?_some found
    obtain ⟨rfl, _⟩ : caller.id = id ∧ caller.phase.isLeading = false := by
      simpa using isFollower
    exact ⟨mirrors.lanes_remove about, rfl⟩

/-- A happening that is about the key does the same to both flights. -/
theorem shows {happening : Happening α κ} (about : happening.key? asked = some key) :
    Shows key (rank key (asked ++ happening.comes)) (whole.happen loads act happening)
      (alone.happen loads act (happening.renumber (rank key asked))) := by
  cases happening with
  | nothing => cases about
  | event event =>
      cases event with
      | start own plan =>
          obtain rfl : own = key := Option.some.inj about
          exact mirrors.shows_ask plan
      | finish own outcome =>
          obtain rfl : own = key := Option.some.inj about
          rw [rank_comes rfl]
          exact mirrors.shows_finish outcome
      | cancelLeader own =>
          obtain rfl : own = key := Option.some.inj about
          rw [rank_comes rfl]
          exact mirrors.shows_cancelLeader
      | cancelWaiter own =>
          obtain rfl : own = key := Option.some.inj about
          rw [rank_comes rfl]
          exact mirrors.shows_cancelWaiter
  | wake id =>
      rw [rank_comes rfl]
      exact mirrors.shows_wake about
  | withdraw id =>
      rw [rank_comes rfl]
      exact mirrors.shows_withdraw about
  | act change => cases about

/-- A happening that is about the key keeps the flights alike. -/
theorem happens {happening : Happening α κ} (about : happening.key? asked = some key) :
    Mirrors key (asked ++ happening.comes) (whole.happen loads act happening).1
      (alone.happen loads act (happening.renumber (rank key asked))).1 := by
  have wholeEffect := mirrors.wholeSound.effect loads act happening
  have aloneEffect :=
    mirrors.aloneSound.effect loads act (happening.renumber (rank key asked))
  have numbered := aloneEffect.numbered mirrors.aloneNumbered
  have sameComers : List.replicate ((asked ++ happening.comes).count key) key =
      List.replicate (asked.count key) key ++ (happening.renumber (rank key asked)).comes := by
    rw [Happening.comes_renumber, List.count_append, List.replicate_add,
      ← happening.comes_eq_replicate about]
  exact
    { wholeSound := wholeEffect.sound mirrors.wholeSound
      aloneSound := aloneEffect.sound mirrors.aloneSound
      wholeNumbered := wholeEffect.numbered mirrors.wholeNumbered
      aloneNumbered := sameComers ▸ numbered
      lanes := (mirrors.shows about).1 }

/-- A happening that is about another key does not have to happen to the flight of the key. -/
theorem rests {happening : Happening α κ} (other : happening.key? asked ≠ some key) :
    Mirrors key (asked ++ happening.comes) (whole.happen loads act happening).1 alone := by
  have effect := mirrors.wholeSound.effect loads act happening
  have nobody : (asked ++ happening.comes).count key = asked.count key := by
    have uncounted : happening.comes.count key = 0 :=
      List.count_eq_zero_of_not_mem fun comes => other (happening.key?_of_comes comes)
    rw [List.count_append, uncounted, Nat.add_zero]
  exact
    { wholeSound := effect.sound mirrors.wholeSound
      aloneSound := mirrors.aloneSound
      wholeNumbered := effect.numbered mirrors.wholeNumbered
      aloneNumbered := nobody ▸ mirrors.aloneNumbered
      lanes := (mirrors.lanes_append _).trans
        (effect.lane_eq mirrors.wholeSound mirrors.wholeNumbered other).symm }

/-- The flight of the key has as many loads in flight as the other has for the key. -/
theorem inFlight_eq : alone.inFlight = (whole.records.map Prod.fst).count key := by
  have only : ∀ own ∈ alone.records.map Prod.fst, key = own := by
    intro own recorded
    obtain ⟨leader, present, isKey, _⟩ := (mirrors.aloneSound.recorded_iff own).mp recorded
    rw [← isKey, mirrors.key_eq present]
  have sameRecord := recorded_iff_of_lanes mirrors.wholeSound mirrors.aloneSound mirrors.lanes
  rw [inFlight, ← List.length_map Prod.fst, ← List.count_eq_length.mpr only,
    mirrors.aloneSound.keysDiffer.count, mirrors.wholeSound.keysDiffer.count]
  simp only [sameRecord]

end Mirrors

end Flight

/-! ## Runs of one key -/

namespace Run

/-- The keys that callers have asked for, in the order of the callers. -/
def asked (run : Run loads act) : Nat → List String
  | 0 => []
  | index + 1 => run.asked index ++ (run.happening index).comes

/-- What is left of a happening if those that are about other keys are deleted: it happens
to the same caller, which has another number. -/
def ownStep (run : Run loads act) (key : String) (index : Nat) : List (Happening α κ) :=
  if (run.happening index).key? (run.asked index) = some key then
    [(run.happening index).renumber (rank key (run.asked index))]
  else []

/-- What is left of so many happenings. -/
def own (run : Run loads act) (key : String) : Nat → List (Happening α κ)
  | 0 => []
  | index + 1 => run.own key index ++ run.ownStep key index

/-- The flight to which only this happens. -/
def alone (run : Run loads act) (key : String) (index : Nat) : Flight Unit κ σ ρ :=
  (Flight.happenAll loads act { world := () } (run.own key index)).1

/-- What can be seen of the callers of a key in a happening, under the numbers that they have
among themselves. -/
def seen (run : Run loads act) (key : String) (index : Nat) : List (Notice γ ρ) :=
  ((run.notices index).filter fun notice =>
      (run.asked (index + 1))[notice.caller]? == some key).map
    (Notice.renumber (rank key (run.asked (index + 1))))

/-- At every time, the flight of a key shows of it what the flight of all shows. -/
theorem mirrors (run : Run loads act) (key : String) (index : Nat) :
    Flight.Mirrors key (run.asked index) (run.state index) (run.alone key index) := by
  induction index with
  | zero => exact .empty key
  | succ index inductionHypothesis =>
      rw [asked, state, alone, own, Flight.happenAll_append, ownStep]
      by_cases about : (run.happening index).key? (run.asked index) = some key
      · rw [if_pos about]
        exact inductionHypothesis.happens about
      · rw [if_neg about]
        exact inductionHypothesis.rests about

/-- A happening that is about a key is seen of its callers alone, and one that is about another
key is not. -/
theorem seen_eq (run : Run loads act) (key : String) (index : Nat) :
    run.seen key index =
      if (run.happening index).key? (run.asked index) = some key then
        (run.notices index).map (Notice.renumber (rank key (run.asked (index + 1))))
      else [] := by
  have seenOf : ∀ notice ∈ run.notices index,
      (run.asked (index + 1))[notice.caller]? =
        (run.happening index).key? (run.asked index) := by
    intro notice mem
    obtain ⟨own, isAbout, asks⟩ :=
      (run.effect index).about (run.mirrors key index).wholeNumbered mem
    rw [isAbout, asked, asks]
  rw [seen]
  split
  · rename_i about
    rw [List.filter_eq_self.mpr]
    intro notice mem
    rw [seenOf notice mem, about, beq_self_eq_true]
  · rename_i other
    rw [List.filter_eq_nil_iff.mpr, List.map_nil]
    intro notice mem
    rw [seenOf notice mem]
    simpa using other

/-- What is left of a happening is seen, in the flight of a key, as what the happening shows
of its callers. -/
theorem alone_happenAll (run : Run loads act) (key : String) (index : Nat) :
    (run.alone key index).happenAll loads act (run.ownStep key index) =
      (run.alone key (index + 1), run.seen key index) := by
  have next : ((run.alone key index).happenAll loads act (run.ownStep key index)).1 =
      run.alone key (index + 1) := by
    rw [alone, alone, own, Flight.happenAll_append]
  refine Prod.ext next ?_
  rw [seen_eq, ownStep]
  by_cases about : (run.happening index).key? (run.asked index) = some key
  · rw [if_pos about, if_pos about, Flight.happenAll, Flight.happenAll, List.append_nil]
    exact ((run.mirrors key index).shows about).2
  · rw [if_neg about, if_neg about]
    rfl

/-- The loads in flight are those in flight in the runs of the keys that were asked for. -/
theorem inFlight_eq_sum (run : Run loads act) (index : Nat) :
    (run.state index).inFlight =
      ∑ key ∈ (run.asked index).toFinset, (run.alone key index).inFlight := by
  have asks : ∀ key ∈ (run.state index).records.map Prod.fst,
      key ∈ (run.asked index).toFinset := by
    intro key recorded
    obtain ⟨leader, present, rfl, _⟩ := ((run.sound index).recorded_iff key).mp recorded
    have keyed := (run.mirrors leader.key index).wholeNumbered.keyed leader present
    exact List.mem_toFinset.mpr (List.mem_of_getElem? keyed)
  have counted : ∑ key ∈ (run.asked index).toFinset,
      ((run.state index).records.map Prod.fst).count key =
        ((run.state index).records.map Prod.fst).length := by
    have total := Multiset.sum_count_eq_card
      (s := (run.asked index).toFinset) (m := ↑((run.state index).records.map Prod.fst)) asks
    simpa only [Multiset.coe_count, Multiset.coe_card] using total
  calc (run.state index).inFlight
      = ((run.state index).records.map Prod.fst).length := (List.length_map Prod.fst).symm
    _ = ∑ key ∈ (run.asked index).toFinset, ((run.state index).records.map Prod.fst).count key :=
        counted.symm
    _ = ∑ key ∈ (run.asked index).toFinset, (run.alone key index).inFlight :=
        Finset.sum_congr rfl fun key _ => (run.mirrors key index).inFlight_eq.symm

/-- Deleting from a run all that is about other keys leaves unchanged, step by step, all that
can be seen of a key: what its loads call and how its callers end (`seen`), which callers there
are and what they do (`lane`), and whether the key has a record. The loads in flight are
those in flight in the runs of the keys. -/
theorem keys_are_independent (run : Run loads act) (index : Nat) :
    (∀ key,
      (run.alone key index).happenAll loads act (run.ownStep key index) =
          (run.alone key (index + 1), run.seen key index) ∧
        (run.alone key index).lane key id =
          (run.state index).lane key (rank key (run.asked index)) ∧
        (key ∈ (run.alone key index).records.map Prod.fst ↔
          key ∈ (run.state index).records.map Prod.fst)) ∧
      (run.state index).inFlight =
        ∑ key ∈ (run.asked index).toFinset, (run.alone key index).inFlight := by
  refine ⟨fun key => ?_, run.inFlight_eq_sum index⟩
  have mirrors := run.mirrors key index
  exact ⟨run.alone_happenAll key index, mirrors.lanes,
    Flight.recorded_iff_of_lanes mirrors.wholeSound mirrors.aloneSound mirrors.lanes⟩

end Run

end RingCache
