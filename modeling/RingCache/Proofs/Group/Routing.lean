import RingCache.Proofs.Flight.Arrivals
import RingCache.Proofs.Group.Passes

/-!
# Routing

The calls of a lookup follow from the time when it starts its pass, the peer that
is named then, and whether the fetch from it has failed (`Routed`). A lookup that
starts no pass calls nothing: it is answered from what the group keeps, or joins
the pass of another.
-/

namespace RingCache

namespace GroupRun

variable {run : GroupRun} {index id ticket : Nat} {key : String} {peer : Peer}
  {outcome : Outcome}

/-! ## The calls of a lookup -/

/-- Whether the fetch of a lookup has failed before a time. -/
def FetchFailed (run : GroupRun) (index id : Nat) : Prop :=
  ∃ earlier < index, ∃ outcome, run.FetchEnds earlier id outcome ∧ outcome.fails

theorem Unanswered.not_failed (unanswered : run.Unanswered index id) :
    ¬ run.FetchFailed index id := by
  rintro ⟨earlier, before, outcome, ends, _⟩
  exact unanswered earlier before outcome ends

/-- Whether a fetch that was answered has failed depends on the answer. -/
theorem Answered.failed_iff {answer : Nat} (answered : run.Answered index id answer outcome) :
    run.FetchFailed index id ↔ outcome.fails := by
  obtain ⟨before, ends, only⟩ := answered
  constructor
  · rintro ⟨earlier, isEarlier, other, otherEnds, fails⟩
    obtain ⟨_, rfl⟩ := only earlier isEarlier other otherEnds
    exact fails
  · intro fails
    exact ⟨answer, before, outcome, ends, fails⟩

/-- A fetch that ends is the fetch of a pass that has started, from the peer named
then, and it is the only one of the lookup until now. -/
theorem FetchEnds.answered (ends : run.FetchEnds index id outcome) {later : Nat}
    (after : index < later) :
    (∃ start key ticket peer, start ≤ index ∧ run.Opens start id key ticket ∧
        (run.state start).world.owner? key = some peer) ∧
      run.Answered later id index outcome := by
  have passage := run.passage id later
  generalize run.calls id later = calls at passage
  cases passage with
  | before unstarted unanswered follows => exact absurd ends (unanswered index after outcome)
  | loads start key ticket started opens nobody unanswered stands =>
      exact absurd ends (unanswered index after outcome)
  | fetches start key ticket peer started opens named unanswered stands =>
      exact absurd ends (unanswered index after outcome)
  | fetched start key ticket peer started opens named answer other since answered succeeds gone =>
      obtain ⟨rfl, rfl⟩ := answered.2.2 index after outcome ends
      exact ⟨⟨start, key, ticket, peer, since, opens, named⟩, answered⟩
  | failed start key ticket peer started opens named answer other since answered fails stands =>
      obtain ⟨rfl, rfl⟩ := answered.2.2 index after outcome ends
      exact ⟨⟨start, key, ticket, peer, since, opens, named⟩, answered⟩

/-- The fetches of a lookup end once. -/
theorem FetchEnds.once {otherIndex : Nat} {other : Outcome}
    (ends : run.FetchEnds index id outcome) (also : run.FetchEnds otherIndex id other) :
    otherIndex = index ∧ other = outcome := by
  have after : index < index + otherIndex + 1 := by omega
  have alsoAfter : otherIndex < index + otherIndex + 1 := by omega
  exact (ends.answered after).2.2.2 otherIndex alsoAfter other also

/-- A lookup that has started no pass has called nothing. -/
theorem calls_of_unstarted
    (unstarted : ∀ earlier < index, ∀ key ticket, ¬ run.Opens earlier id key ticket) :
    run.calls id index = [] := by
  generalize log : run.calls id index = calls
  have passage := run.passage id index
  rw [log] at passage
  cases passage with
  | before => rfl
  | loads start key ticket started opens => exact absurd opens (unstarted start started key ticket)
  | fetches start key ticket peer started opens =>
      exact absurd opens (unstarted start started key ticket)
  | fetched start key ticket peer started opens =>
      exact absurd opens (unstarted start started key ticket)
  | failed start key ticket peer started opens =>
      exact absurd opens (unstarted start started key ticket)

/-- A pass without a peer to ask calls the source, once, and nobody else. -/
theorem calls_of_nobody (opens : run.Opens index id key ticket)
    (nobody : (run.state index).world.owner? key = none) {later : Nat} (after : index < later) :
    run.calls id later = [.load key] := by
  generalize log : run.calls id later = calls
  have passage := run.passage id later
  rw [log] at passage
  have notNamed : ∀ {start otherKey other peer}, run.Opens start id otherKey other →
      (run.state start).world.owner? otherKey ≠ some peer := by
    intro start otherKey other peer otherOpens
    obtain ⟨rfl, rfl, _⟩ := opens.once otherOpens
    rw [nobody]
    nofun
  cases passage with
  | before unstarted => exact absurd opens (unstarted index after key ticket)
  | loads start otherKey other started otherOpens =>
      obtain ⟨_, rfl, _⟩ := opens.once otherOpens
      rfl
  | fetches start otherKey other peer started otherOpens named =>
      exact absurd named (notNamed otherOpens)
  | fetched start otherKey other peer started otherOpens named =>
      exact absurd named (notNamed otherOpens)
  | failed start otherKey other peer started otherOpens named =>
      exact absurd named (notNamed otherOpens)

/-- A pass with a peer to ask fetches from it, once, and then calls the source,
once, as soon as the fetch has failed. -/
theorem calls_of_named (opens : run.Opens index id key ticket)
    (named : (run.state index).world.owner? key = some peer) {later : Nat} (after : index < later) :
    (¬ run.FetchFailed later id ∧
        run.calls id later = [.fetch peer (run.state index).world.name key]) ∨
      (run.FetchFailed later id ∧
        run.calls id later = [.fetch peer (run.state index).world.name key, .load key]) := by
  generalize log : run.calls id later = calls
  have passage := run.passage id later
  rw [log] at passage
  cases passage with
  | before unstarted => exact absurd opens (unstarted index after key ticket)
  | loads start otherKey other started otherOpens nobody =>
      obtain ⟨rfl, rfl, _⟩ := opens.once otherOpens
      rw [named] at nobody
      cases nobody
  | fetches start otherKey other otherPeer started otherOpens otherNamed unanswered =>
      obtain ⟨rfl, rfl, _⟩ := opens.once otherOpens
      rw [named] at otherNamed
      cases otherNamed
      exact .inl ⟨unanswered.not_failed, rfl⟩
  | fetched start otherKey other otherPeer started otherOpens otherNamed answer outcome since
      answered succeeds =>
      obtain ⟨rfl, rfl, _⟩ := opens.once otherOpens
      rw [named] at otherNamed
      cases otherNamed
      exact .inl ⟨fun failed => succeeds (answered.failed_iff.mp failed), rfl⟩
  | failed start otherKey other otherPeer started otherOpens otherNamed answer outcome since
      answered fails =>
      obtain ⟨rfl, rfl, _⟩ := opens.once otherOpens
      rw [named] at otherNamed
      cases otherNamed
      exact .inr ⟨answered.failed_iff.mpr fails, rfl⟩

/-- A peer refuses, and then the source is called, once for both lookups. -/
example :
    let peer : Peer := ⟨"127.0.0.1:8001", fun _ _ => .held⟩
    let run : GroupRun := .create "scores" 64 .held fun
      | 0 => .act (some fun _ => some peer)
      | 1 => .event (.start "Tom" ())
      | 2 => .event (.start "Tom" ())
      | 3 => .event (.finish "Tom" (.failure (.transport "refused")))
      | _ => .nothing
    run.calls 0 4 = [.fetch peer "scores" "Tom", .load "Tom"] ∧ run.calls 1 4 = [] :=
  ⟨rfl, rfl⟩

end GroupRun

/-! ## The picker -/

namespace GroupState

variable {state : GroupState} {key : String}

/-- Only when it starts, a pass asks the picker. -/
theorem picks_pass (picks : Nat) (key : String) : PassInvariant (·.picks = picks) key where
  counts _ _ same := same
  keeps _ _ same := same
  calls _ same := same

/-- A pass that starts asks the picker once, if there is one. -/
theorem picks_start (state : GroupState) (key : String) :
    (state.start key).1.picks = state.picks + if state.picker.isSome then 1 else 0 := by
  refine (picks_pass _ key).start ?_
  rw [pick]
  cases state.picker <;> rfl

end GroupState

namespace GroupRun

variable {run : GroupRun} {index id ticket : Nat} {key : String} {peer : Peer}

/-- A pass asks the picker once, if there is one, when it starts. -/
theorem picks_of_opens (opens : run.Opens index id key ticket) :
    (run.state (index + 1)).world.picks = (run.state index).world.picks +
      if (run.state index).world.picker.isSome then 1 else 0 := by
  obtain ⟨_, base, entrant, _, world, called, progress, started, reached, _⟩ :=
    opens.1.happen_cases GroupState.equip (run.sound index)
  obtain ⟨_, samePicker, samePicks⟩ := world_of_entrant entrant
  have isWorld : (run.state (index + 1)).world = (base.world.start key).1 :=
    reached.trans (congrArg Prod.fst started).symm
  rw [isWorld, GroupState.picks_start, samePicks, samePicker]

/-- What a lookup's pass does that starts at some time. -/
structure Routed (run : GroupRun) (index id : Nat) (key : String) (ticket : Nat) : Prop where
  /-- Nobody else is making a pass of the key then. -/
  alone : ∀ caller ∈ (run.state index).callers, caller.key = key →
    caller.phase.isLeading = false
  /-- No other pass has this ticket. -/
  distinct : ∀ other otherId otherKey, run.Opens other otherId otherKey ticket →
    other = index ∧ otherId = id ∧ otherKey = key
  /-- The lookup makes no other pass. -/
  only : ∀ other otherKey otherTicket, run.Opens other id otherKey otherTicket →
    other = index ∧ otherKey = key ∧ otherTicket = ticket
  /-- The picker is asked once, if there is one. -/
  asks : (run.state (index + 1)).world.picks = (run.state index).world.picks +
    if (run.state index).world.picker.isSome then 1 else 0
  /-- Nothing was called before. -/
  unstarted : run.calls id index = []
  /-- If nobody is named, the source is called, once. -/
  loads : (run.state index).world.owner? key = none →
    ∀ later, index < later → run.calls id later = [.load key]
  /-- If a peer is named, it is asked, once, and as soon as the fetch has failed
  the source is called, once. -/
  fetches : ∀ peer, (run.state index).world.owner? key = some peer → ∀ later, index < later →
    (¬ run.FetchFailed later id ∧
        run.calls id later = [.fetch peer (run.state index).world.name key]) ∨
      (run.FetchFailed later id ∧
        run.calls id later = [.fetch peer (run.state index).world.name key, .load key])

/-- Every pass is routed so. -/
theorem routed (opens : run.Opens index id key ticket) : run.Routed index id key ticket where
  alone := opens.alone
  distinct := fun _ _ _ also => opens.sameTicket also
  only := by
    intro other otherKey otherTicket also
    obtain ⟨sameTime, sameKey, sameTicket⟩ := opens.once also
    exact ⟨sameTime.symm, sameKey.symm, sameTicket.symm⟩
  asks := picks_of_opens opens
  unstarted := by
    refine calls_of_unstarted fun earlier before otherKey other also => ?_
    exact absurd (opens.once also).1 (Nat.ne_of_gt before)
  loads := fun nobody _ after => calls_of_nobody opens nobody after
  fetches := fun _ named _ after => calls_of_named opens named after

end GroupRun

end RingCache
