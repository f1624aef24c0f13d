import RingCache.Proofs.Flight.Histories
import RingCache.Proofs.Group.Residents

/-!
# What a pass calls

A pass asks at most one peer, and the source exactly if there is no peer to ask
or the peer fails. `Passage` says how far the pass of a lookup has come and what
it has called until then; every happening takes it from one of its cases to one
of them (`Passage.next`), so that all there is to know of the calls of a lookup
at any time is one of five cases.
-/

namespace RingCache

/-- Whether a call to a peer fails, so that the source is called instead. -/
def Outcome.fails (outcome : Outcome) : Prop :=
  ∃ failure, outcome.result? = some (.error failure)

/-! ## The calls of one happening -/

namespace GroupState

variable {state : GroupState} {key : String}

/-- A lookup that comes does not change who names the owners of keys, and asks
nobody. -/
theorem greet_frame (state : GroupState) (key : String) :
    (state.greet key).1.name = state.name ∧ (state.greet key).1.picker = state.picker ∧
      (state.greet key).1.picks = state.picks := by
  rw [greet]
  split
  · exact ⟨rfl, rfl, rfl⟩
  · dsimp only
    split <;> exact ⟨rfl, rfl, rfl⟩

/-- Asking the picker gives the owner of the key. -/
theorem pick_eq (state : GroupState) (key : String) :
    (state.pick key).2 = state.owner? key ∧ (state.pick key).1.name = state.name := by
  rw [pick, owner?]
  cases state.picker <;> exact ⟨rfl, rfl⟩

/-- The source answers or crashes, but does not wait. -/
theorem loaded_ends (state : GroupState) (key : String) (outcome : Outcome) :
    (state.loaded key outcome).2.ending? ≠ none := by
  rw [loaded]
  split <;> exact Option.some_ne_none _

/-- A call of the source is one call, and then the pass waits only for its end. -/
theorem load_calls (state : GroupState) (key : String) :
    (state.load key).2.1 = [.load key] ∧
      ∀ stage, (state.load key).2.2 = .blocked stage → stage = .loading := by
  rw [load]
  dsimp only
  cases state.source.load state.sourceCalls key with
  | held => exact ⟨rfl, fun stage blocked => (Progress.blocked.inj blocked).symm⟩
  | now outcome =>
      refine ⟨rfl, fun stage blocked => ?_⟩
      have ends := loaded_ends { state with sourceCalls := state.sourceCalls + 1 } key outcome
      exact absurd (Progress.ending?_eq_none.mpr ⟨stage, blocked⟩) ends

/-- A fetch that fails is followed by a call of the source. -/
theorem fetched_of_fails (state : GroupState) (key : String) {outcome : Outcome}
    (fails : outcome.fails) :
    (state.fetched key outcome).2.1 = [.load key] ∧
      ∀ stage, (state.fetched key outcome).2.2 = .blocked stage → stage = .loading := by
  obtain ⟨failure, result⟩ := fails
  rw [fetched, result]
  exact load_calls _ key

/-- A fetch that does not fail ends the pass. -/
theorem fetched_of_not_fails (state : GroupState) (key : String) {outcome : Outcome}
    (succeeds : ¬ outcome.fails) :
    (state.fetched key outcome).2.1 = [] ∧ (state.fetched key outcome).2.2.ending? ≠ none := by
  rw [fetched]
  cases result : outcome.result? with
  | none => exact ⟨rfl, Option.some_ne_none _⟩
  | some answer =>
      cases answer with
      | ok value => exact ⟨rfl, Option.some_ne_none _⟩
      | error failure => exact absurd ⟨failure, result⟩ succeeds

/-- Without a peer to ask, a pass calls the source. -/
theorem start_of_nobody (nobody : state.owner? key = none) :
    (state.start key).2.1 = [.load key] ∧
      ∀ stage, (state.start key).2.2 = .blocked stage → stage = .loading := by
  have picked := (pick_eq state key).1.trans nobody
  rw [start, picked]
  exact load_calls _ key

/-- A peer that holds its answer back is waited for. -/
theorem start_of_held {peer : Peer} (named : state.owner? key = some peer)
    (held : peer.fetch state.name key = .held) :
    (state.start key).2.1 = [.fetch peer state.name key] ∧
      (state.start key).2.2 = .blocked (.fetching peer) := by
  have picked := (pick_eq state key).1.trans named
  rw [start, picked]
  dsimp only
  rw [held]
  exact ⟨rfl, rfl⟩

/-- A peer that answers at once is followed up at once. -/
theorem start_of_now {peer : Peer} {outcome : Outcome} (named : state.owner? key = some peer)
    (replied : peer.fetch state.name key = .now outcome) :
    (state.start key).2.1 =
        .fetch peer state.name key :: ((state.pick key).1.fetched key outcome).2.1 ∧
      (state.start key).2.2 = ((state.pick key).1.fetched key outcome).2.2 := by
  have picked := (pick_eq state key).1.trans named
  rw [start, picked]
  dsimp only
  rw [replied]
  exact ⟨rfl, rfl⟩

end GroupState

/-! ## How far a pass has come -/

namespace GroupRun

/-- Whether the fetch of a lookup's pass ends with an outcome: the peer answers at
once when the pass starts, or the call that the pass waits for ends. -/
inductive FetchEnds (run : GroupRun) (index id : Nat) (outcome : Outcome) : Prop where
  | atOnce (key : String) (ticket : Nat) (peer : Peer) (opens : run.Opens index id key ticket)
      (named : (run.state index).world.owner? key = some peer)
      (replied : peer.fetch (run.state index).world.name key = .now outcome)
  | later (key : String) (ticket : Nat) (peer : Peer)
      (waits : ∃ caller ∈ (run.state index).callers,
        caller.id = id ∧ caller.key = key ∧ caller.phase = .leading ticket (.fetching peer))
      (finished : run.happening index = .event (.finish key outcome))

/-- Whether no fetch of a lookup has ended before a time. -/
def Unanswered (run : GroupRun) (index id : Nat) : Prop :=
  ∀ earlier < index, ∀ outcome, ¬ run.FetchEnds earlier id outcome

/-- Whether one fetch of a lookup has ended before a time, and when and how. -/
def Answered (run : GroupRun) (index id answer : Nat) (outcome : Outcome) : Prop :=
  answer < index ∧ run.FetchEnds answer id outcome ∧
    ∀ earlier < index, ∀ other, run.FetchEnds earlier id other →
      earlier = answer ∧ other = outcome

/-- How far the pass of a lookup has come, and what it has called until then. -/
inductive Passage (run : GroupRun) (id index : Nat) : List Call → Prop where
  /-- It has not started. -/
  | before (unstarted : ∀ earlier < index, ∀ key ticket, ¬ run.Opens earlier id key ticket)
      (unanswered : run.Unanswered index id)
      (follows : ∀ caller ∈ (run.state index).callers, caller.id = id →
        caller.phase.isLeading = false) :
      Passage run id index []
  /-- There was no peer to ask, and the source was called. -/
  | loads (start : Nat) (key : String) (ticket : Nat) (started : start < index)
      (opens : run.Opens start id key ticket)
      (nobody : (run.state start).world.owner? key = none)
      (unanswered : run.Unanswered index id)
      (stands : run.AtStage index id key ticket .loading) :
      Passage run id index [.load key]
  /-- A peer was asked, and has not answered. -/
  | fetches (start : Nat) (key : String) (ticket : Nat) (peer : Peer) (started : start < index)
      (opens : run.Opens start id key ticket)
      (named : (run.state start).world.owner? key = some peer)
      (unanswered : run.Unanswered index id)
      (stands : run.AtStage index id key ticket (.fetching peer)) :
      Passage run id index [.fetch peer (run.state start).world.name key]
  /-- A peer was asked, and its answer has ended the pass. -/
  | fetched (start : Nat) (key : String) (ticket : Nat) (peer : Peer) (started : start < index)
      (opens : run.Opens start id key ticket)
      (named : (run.state start).world.owner? key = some peer)
      (answer : Nat) (outcome : Outcome) (since : start ≤ answer)
      (answered : run.Answered index id answer outcome) (succeeds : ¬ outcome.fails)
      (gone : (run.state index).Gone id) :
      Passage run id index [.fetch peer (run.state start).world.name key]
  /-- A peer was asked and failed, and then the source was called. -/
  | failed (start : Nat) (key : String) (ticket : Nat) (peer : Peer) (started : start < index)
      (opens : run.Opens start id key ticket)
      (named : (run.state start).world.owner? key = some peer)
      (answer : Nat) (outcome : Outcome) (since : start ≤ answer)
      (answered : run.Answered index id answer outcome) (fails : outcome.fails)
      (stands : run.AtStage index id key ticket .loading) :
      Passage run id index [.fetch peer (run.state start).world.name key, .load key]

variable {run : GroupRun} {index id ticket : Nat} {key : String} {peer : Peer}
  {outcome : Outcome}

/-! ### Fetches that end -/

/-- What holds at all earlier times and now holds at all times before the next. -/
theorem all_lt_succ {P : Nat → Prop} (earlier : ∀ time < index, P time) (now : P index) :
    ∀ time < index + 1, P time := by
  intro time before
  rcases Nat.lt_succ_iff_lt_or_eq.mp before with older | rfl
  · exact earlier time older
  · exact now

theorem Unanswered.next (unanswered : run.Unanswered index id)
    (silent : ∀ outcome, ¬ run.FetchEnds index id outcome) : run.Unanswered (index + 1) id :=
  all_lt_succ unanswered silent

/-- The first fetch that ends is the only one until then. -/
theorem Unanswered.answered (unanswered : run.Unanswered index id)
    (ends : run.FetchEnds index id outcome)
    (only : ∀ other, run.FetchEnds index id other → other = outcome) :
    run.Answered (index + 1) id index outcome := by
  have noneBefore : ∀ earlier < index, ∀ other, run.FetchEnds earlier id other →
      earlier = index ∧ other = outcome :=
    fun earlier before other otherEnds => absurd otherEnds (unanswered earlier before other)
  exact ⟨Nat.lt_succ_self _, ends,
    all_lt_succ noneBefore fun other otherEnds => ⟨rfl, only other otherEnds⟩⟩

theorem Answered.next {answer : Nat} (answered : run.Answered index id answer outcome)
    (silent : ∀ other, ¬ run.FetchEnds index id other) :
    run.Answered (index + 1) id answer outcome := by
  obtain ⟨before, ends, only⟩ := answered
  refine ⟨Nat.lt_succ_of_lt before, ends, all_lt_succ only ?_⟩
  intro other otherEnds
  exact absurd otherEnds (silent other)

/-- No fetch ends of a lookup that leads no pass and starts none. -/
theorem not_fetchEnds_of_follows
    (follows : ∀ caller ∈ (run.state index).callers, caller.id = id →
      caller.phase.isLeading = false)
    (starts : ∀ key ticket, ¬ run.Opens index id key ticket) (outcome : Outcome) :
    ¬ run.FetchEnds index id outcome := by
  intro ends
  cases ends with
  | atOnce key ticket peer opens => exact starts key ticket opens
  | later key ticket peer waits =>
      obtain ⟨caller, present, isCaller, _, phase⟩ := waits
      have leading := follows caller present isCaller
      rw [phase] at leading
      cases leading

/-- No fetch ends of a lookup that waits for the source or is gone. -/
theorem not_fetchEnds_of_loading (stands : run.AtStage index id key ticket .loading)
    (outcome : Outcome) : ¬ run.FetchEnds index id outcome := by
  intro ends
  cases ends with
  | atOnce otherKey other peer opens => exact stands.not_opens otherKey other opens
  | later otherKey other peer waits =>
      obtain ⟨caller, present, isCaller, _, phase⟩ := waits
      rcases stands with ⟨loading, loadingPresent, isLoading, _, loads⟩ | gone
      · obtain rfl :=
          (run.sound index).sameCaller present loadingPresent (isCaller.trans isLoading.symm)
        rw [phase] at loads
        cases loads
      · exact gone.2 caller present isCaller

/-- The fetch of a pass that starts ends only if the peer answers at once. -/
theorem FetchEnds.of_opens (ends : run.FetchEnds index id outcome)
    (opens : run.Opens index id key ticket) :
    ∃ peer, (run.state index).world.owner? key = some peer ∧
      peer.fetch (run.state index).world.name key = .now outcome := by
  cases ends with
  | atOnce otherKey other peer otherOpens named replied =>
      obtain ⟨_, rfl, _⟩ := opens.once otherOpens
      exact ⟨peer, named, replied⟩
  | later otherKey other peer waits =>
      obtain ⟨caller, present, isCaller, _, phase⟩ := waits
      rw [opens.toldNothing present isCaller] at phase
      cases phase

/-- The fetch of a pass that waits for a peer ends when the call of its key ends. -/
theorem FetchEnds.finishes (ends : run.FetchEnds index id outcome)
    {caller : Caller Unit Stage Result} (present : caller ∈ (run.state index).callers)
    (isCaller : caller.id = id) (leads : caller.phase = .leading ticket (.fetching peer)) :
    run.happening index = .event (.finish caller.key outcome) := by
  cases ends with
  | atOnce key other otherPeer opens =>
      rw [opens.toldNothing present isCaller] at leads
      cases leads
  | later key other otherPeer waits finished =>
      obtain ⟨same, samePresent, isSame, rfl, _⟩ := waits
      obtain rfl := (run.sound index).sameCaller present samePresent (isCaller.trans isSame.symm)
      exact finished

/-! ### One happening -/

/-- Who is gone calls nothing. -/
theorem calls_of_gone (gone : (run.state index).Gone id) :
    run.calls id (index + 1) = run.calls id index :=
  Run.calls_of_silent (Run.silent_of_gone gone (Nat.le_refl _))

/-- A lookup that is cancelled calls nothing. -/
theorem calls_of_cancelled (only : run.notices index = [.ended id key .cancelled]) :
    run.calls id (index + 1) = run.calls id index := by
  have noCalls : run.notices index = [].map (.called id) ++ [.ended id key .cancelled] := only
  exact (Run.calls_of_called_ended noCalls).trans (List.append_nil _)

/-- A pass that waits for the source calls nothing more. -/
theorem next_of_loading (stands : run.AtStage index id key ticket .loading) :
    run.calls id (index + 1) = run.calls id index ∧
      run.AtStage (index + 1) id key ticket .loading := by
  rcases stands with ⟨caller, present, rfl, rfl, phase⟩ | gone
  · rcases (run.effect index).fate_of_leader (run.sound index) present phase with
      ⟨stays, silent, _⟩ | ⟨outcome, world, called, progress, finished, resumed, _, goesOn⟩ |
        ⟨_, gone, only⟩
    · exact ⟨Run.calls_of_silent silent, .inl ⟨caller, stays, rfl, rfl, phase⟩⟩
    · have isCalled : [] = called := congrArg (fun pass => pass.2.1) resumed
      have isProgress : ((run.state index).world.loaded caller.key outcome).2 = progress :=
        congrArg (fun pass => pass.2.2) resumed
      subst isCalled
      rcases goesOn with ⟨later, rfl, _⟩ | ⟨ending, _, gone, only⟩
      · have ends := GroupState.loaded_ends (run.state index).world caller.key outcome
        exact absurd (Progress.ending?_eq_none.mpr ⟨later, isProgress⟩) ends
      · exact ⟨(Run.calls_of_called_ended only).trans (List.append_nil _), .inr gone⟩
    · exact ⟨calls_of_cancelled only, .inr gone⟩
  · exact ⟨calls_of_gone gone, .inr ((run.effect index).gone gone).1⟩

/-- A pass that waits for a peer waits on, or goes on when the fetch ends: a fetch
that fails is followed by a call of the source, and any other ends the pass. -/
theorem next_of_fetching {caller : Caller Unit Stage Result}
    (present : caller ∈ (run.state index).callers)
    (leads : caller.phase = .leading ticket (.fetching peer)) :
    (run.calls caller.id (index + 1) = run.calls caller.id index ∧
        (∀ outcome, ¬ run.FetchEnds index caller.id outcome) ∧
        run.AtStage (index + 1) caller.id caller.key ticket (.fetching peer)) ∨
      ∃ outcome, run.FetchEnds index caller.id outcome ∧
        (∀ other, run.FetchEnds index caller.id other → other = outcome) ∧
        ((outcome.fails ∧
            run.calls caller.id (index + 1) = run.calls caller.id index ++ [.load caller.key] ∧
            run.AtStage (index + 1) caller.id caller.key ticket .loading) ∨
          (¬ outcome.fails ∧ run.calls caller.id (index + 1) = run.calls caller.id index ∧
            (run.state (index + 1)).Gone caller.id)) := by
  have finishes : ∀ other, run.FetchEnds index caller.id other →
      run.happening index = .event (.finish caller.key other) :=
    fun other ends => ends.finishes present rfl leads
  rcases (run.effect index).fate_of_leader (run.sound index) present leads with
    ⟨stays, silent, unfinished⟩ |
      ⟨outcome, world, called, progress, finished, resumed, _, goesOn⟩ | ⟨cancelled, gone, only⟩
  · exact .inl ⟨Run.calls_of_silent silent,
      fun outcome ends => unfinished outcome (finishes outcome ends),
      .inl ⟨caller, stays, rfl, rfl, leads⟩⟩
  · have isCalled : ((run.state index).world.fetched caller.key outcome).2.1 = called :=
      congrArg (fun pass => pass.2.1) resumed
    have isProgress : ((run.state index).world.fetched caller.key outcome).2.2 = progress :=
      congrArg (fun pass => pass.2.2) resumed
    have callsNow : run.calls caller.id (index + 1) = run.calls caller.id index ++ called := by
      rcases goesOn with ⟨_, _, _, only⟩ | ⟨_, _, _, only⟩
      · exact Run.calls_of_called only
      · exact Run.calls_of_called_ended only
    refine .inr ⟨outcome, .later caller.key ticket peer ⟨caller, present, rfl, rfl, leads⟩ finished,
      fun other ends => ?_, ?_⟩
    · have same := (finishes other ends).symm.trans finished
      exact (Flight.Event.finish.inj (Happening.event.inj same)).2
    · by_cases fails : outcome.fails
      · obtain ⟨callsSource, loading⟩ :=
          GroupState.fetched_of_fails (run.state index).world caller.key fails
        rw [isCalled] at callsSource
        rw [isProgress] at loading
        refine .inl ⟨fails, by rw [callsNow, callsSource], ?_⟩
        rcases goesOn with ⟨later, isBlocked, stays, _⟩ | ⟨_, _, gone, _⟩
        · obtain rfl := loading later isBlocked
          exact .inl ⟨_, stays, rfl, rfl, rfl⟩
        · exact .inr gone
      · obtain ⟨callsNothing, ended⟩ :=
          GroupState.fetched_of_not_fails (run.state index).world caller.key fails
        rw [isCalled] at callsNothing
        rw [isProgress] at ended
        refine .inr ⟨fails, by rw [callsNow, callsNothing, List.append_nil], ?_⟩
        rcases goesOn with ⟨later, isBlocked, _⟩ | ⟨_, _, gone, _⟩
        · exact absurd (Progress.ending?_eq_none.mpr ⟨later, isBlocked⟩) ended
        · exact gone
  · refine .inl ⟨calls_of_cancelled only, ?_, .inr gone⟩
    intro outcome ends
    have finished := finishes outcome ends
    rw [cancelled] at finished
    cases finished

/-! ### Passes that start -/

/-- Who enters finds the group with the same name and the same picker. -/
theorem world_of_entrant {flight base : Group} {happening : Happening (Option Picker) Unit}
    (entrant : Flight.Entrant Group.loads flight happening id key () base) :
    base.world.name = flight.world.name ∧ base.world.picker = flight.world.picker ∧
      base.world.picks = flight.world.picks := by
  cases entrant with
  | fresh key plan missed => exact GroupState.greet_frame flight.world key
  | woken caller present told => exact ⟨rfl, rfl, rfl⟩

/-- Who enters finds the group with the same owners of keys. -/
theorem owner?_of_entrant {flight base : Group} {happening : Happening (Option Picker) Unit}
    (entrant : Flight.Entrant Group.loads flight happening id key () base) (asked : String) :
    base.world.owner? asked = flight.world.owner? asked := by
  rw [GroupState.owner?, (world_of_entrant entrant).2.1, GroupState.owner?]

/-- A pass without a peer to ask calls the source. -/
theorem next_of_nobody (opens : run.Opens index id key ticket)
    (nobody : (run.state index).world.owner? key = none) :
    (∀ outcome, ¬ run.FetchEnds index id outcome) ∧
      run.calls id (index + 1) = run.calls id index ++ [.load key] ∧
      run.AtStage (index + 1) id key ticket .loading := by
  refine ⟨fun outcome ends => ?_, ?_, ?_⟩
  · obtain ⟨peer, named, _⟩ := ends.of_opens opens
    rw [nobody] at named
    cases named
  · obtain ⟨_, base, entrant, called⟩ := opens.calls
    have starts := GroupState.start_of_nobody ((owner?_of_entrant entrant key).trans nobody)
    exact called.trans (congrArg _ starts.1)
  · refine opens.atStage .loading fun _ base entrant other blocked => ?_
    have starts := GroupState.start_of_nobody ((owner?_of_entrant entrant key).trans nobody)
    exact starts.2 other blocked

/-- A pass whose peer holds its answer back waits for it. -/
theorem next_of_held (opens : run.Opens index id key ticket)
    (named : (run.state index).world.owner? key = some peer)
    (held : peer.fetch (run.state index).world.name key = .held) :
    (∀ outcome, ¬ run.FetchEnds index id outcome) ∧
      run.calls id (index + 1) =
        run.calls id index ++ [.fetch peer (run.state index).world.name key] ∧
      run.AtStage (index + 1) id key ticket (.fetching peer) := by
  have starts : ∀ {base : Group},
      Flight.Entrant Group.loads (run.state index) (run.happening index) id key () base →
      (base.world.start key).2.1 = [.fetch peer (run.state index).world.name key] ∧
        (base.world.start key).2.2 = .blocked (.fetching peer) := by
    intro base entrant
    have sameName := (world_of_entrant entrant).1
    rw [← sameName] at held ⊢
    exact GroupState.start_of_held ((owner?_of_entrant entrant key).trans named) held
  refine ⟨fun outcome ends => ?_, ?_, ?_⟩
  · obtain ⟨otherPeer, isNamed, replied⟩ := ends.of_opens opens
    rw [named] at isNamed
    cases isNamed
    rw [held] at replied
    cases replied
  · obtain ⟨_, base, entrant, called⟩ := opens.calls
    exact called.trans (congrArg _ (starts entrant).1)
  · refine opens.atStage (.fetching peer) fun _ base entrant other blocked => ?_
    exact Progress.blocked.inj (blocked.symm.trans (starts entrant).2)

/-- A pass whose peer answers at once goes on at once. -/
theorem next_of_now (opens : run.Opens index id key ticket)
    (named : (run.state index).world.owner? key = some peer)
    (replied : peer.fetch (run.state index).world.name key = .now outcome) :
    run.FetchEnds index id outcome ∧
      (∀ other, run.FetchEnds index id other → other = outcome) ∧
      ((outcome.fails ∧
          run.calls id (index + 1) =
            run.calls id index ++ [.fetch peer (run.state index).world.name key, .load key] ∧
          run.AtStage (index + 1) id key ticket .loading) ∨
        (¬ outcome.fails ∧
          run.calls id (index + 1) =
            run.calls id index ++ [.fetch peer (run.state index).world.name key] ∧
          (run.state (index + 1)).Gone id)) := by
  have starts : ∀ {base : Group},
      Flight.Entrant Group.loads (run.state index) (run.happening index) id key () base →
      (base.world.start key).2.1 = .fetch peer (run.state index).world.name key ::
          ((base.world.pick key).1.fetched key outcome).2.1 ∧
        (base.world.start key).2.2 = ((base.world.pick key).1.fetched key outcome).2.2 := by
    intro base entrant
    have sameName := (world_of_entrant entrant).1
    rw [← sameName] at replied ⊢
    exact GroupState.start_of_now ((owner?_of_entrant entrant key).trans named) replied
  refine ⟨.atOnce key ticket peer opens named replied, fun other ends => ?_, ?_⟩
  · obtain ⟨otherPeer, isNamed, otherReplied⟩ := ends.of_opens opens
    rw [named] at isNamed
    cases isNamed
    exact Reply.now.inj (otherReplied.symm.trans replied)
  · obtain ⟨_, base, entrant, called⟩ := opens.calls
    have calledNow : run.calls id (index + 1) = run.calls id index ++ _ :=
      called.trans (congrArg _ (starts entrant).1)
    by_cases fails : outcome.fails
    · refine .inl ⟨fails, ?_, ?_⟩
      · rw [calledNow, (GroupState.fetched_of_fails _ key fails).1]
      · refine opens.atStage .loading fun _ other otherEntrant stage blocked => ?_
        have isBlocked := (starts otherEntrant).2.symm.trans blocked
        exact (GroupState.fetched_of_fails _ key fails).2 stage isBlocked
    · refine .inr ⟨fails, ?_, ?_⟩
      · rw [calledNow, (GroupState.fetched_of_not_fails _ key fails).1]
      · refine opens.gone fun _ other otherEntrant => ?_
        have ended : ((other.world.pick key).1.fetched key outcome).2.2.ending? ≠ none :=
          (GroupState.fetched_of_not_fails _ key fails).2
        rw [← (starts otherEntrant).2] at ended
        exact ended

/-! ### Every happening -/

/-- A pass that starts is in one of the cases from then on. -/
theorem Passage.of_opens (opens : run.Opens index id key ticket)
    (unanswered : run.Unanswered index id) (nothing : run.calls id index = []) :
    Passage run id (index + 1) (run.calls id (index + 1)) := by
  have later : index < index + 1 := Nat.lt_succ_self index
  cases owner : (run.state index).world.owner? key with
  | none =>
      obtain ⟨silent, called, stands⟩ := next_of_nobody opens owner
      rw [called, nothing]
      exact .loads index key ticket later opens owner (unanswered.next silent) stands
  | some peer =>
      cases reply : peer.fetch (run.state index).world.name key with
      | held =>
          obtain ⟨silent, called, stands⟩ := next_of_held opens owner reply
          rw [called, nothing]
          exact .fetches index key ticket peer later opens owner (unanswered.next silent) stands
      | now outcome =>
          obtain ⟨ends, only, goesOn⟩ := next_of_now opens owner reply
          have answered := unanswered.answered ends only
          rcases goesOn with ⟨fails, called, stands⟩ | ⟨succeeds, called, gone⟩
          · rw [called, nothing]
            exact .failed index key ticket peer later opens owner index outcome (Nat.le_refl _)
              answered fails stands
          · rw [called, nothing]
            exact .fetched index key ticket peer later opens owner index outcome (Nat.le_refl _)
              answered succeeds gone

/-- Every happening takes a pass from one of its cases to one of them. -/
theorem Passage.next (passage : Passage run id index (run.calls id index)) :
    Passage run id (index + 1) (run.calls id (index + 1)) := by
  generalize log : run.calls id index = calls at passage
  have later : index < index + 1 := Nat.lt_succ_self index
  cases passage with
  | before unstarted unanswered follows =>
      by_cases starts : ∃ key ticket, run.Opens index id key ticket
      · obtain ⟨key, ticket, opens⟩ := starts
        exact .of_opens opens unanswered log
      · have idle : ∀ key ticket, ¬ run.Opens index id key ticket :=
          fun key ticket opens => starts ⟨key, ticket, opens⟩
        obtain ⟨called, stillFollows⟩ := Run.calls_of_follows follows idle
        rw [called, log]
        exact .before (all_lt_succ unstarted idle)
          (unanswered.next (not_fetchEnds_of_follows follows idle)) stillFollows
  | loads start key ticket started opens nobody unanswered stands =>
      obtain ⟨called, standsNext⟩ := next_of_loading stands
      rw [called, log]
      exact .loads start key ticket (started.trans later) opens nobody
        (unanswered.next (not_fetchEnds_of_loading stands)) standsNext
  | fetches start key ticket peer started opens named unanswered stands =>
      rcases stands with ⟨caller, present, rfl, rfl, leads⟩ | gone
      · rcases next_of_fetching present leads with ⟨called, silent, standsNext⟩ |
          ⟨outcome, ends, only, ⟨fails, called, standsNext⟩ | ⟨succeeds, called, gone⟩⟩
        · rw [called, log]
          exact .fetches start caller.key ticket peer (started.trans later) opens named
            (unanswered.next silent) standsNext
        · rw [called, log]
          exact .failed start caller.key ticket peer (started.trans later) opens named index
            outcome (Nat.le_of_lt started) (unanswered.answered ends only) fails standsNext
        · rw [called, log]
          exact .fetched start caller.key ticket peer (started.trans later) opens named index
            outcome (Nat.le_of_lt started) (unanswered.answered ends only) succeeds gone
      · have loading : run.AtStage index id key ticket .loading := .inr gone
        rw [calls_of_gone gone, log]
        exact .fetches start key ticket peer (started.trans later) opens named
          (unanswered.next (not_fetchEnds_of_loading loading))
          (.inr (Run.gone_later gone (Nat.le_succ _)))
  | fetched start key ticket peer started opens named answer outcome since answered succeeds gone =>
      have loading : run.AtStage index id key ticket .loading := .inr gone
      rw [calls_of_gone gone, log]
      exact .fetched start key ticket peer (started.trans later) opens named answer outcome since
        (answered.next (not_fetchEnds_of_loading loading)) succeeds
        (Run.gone_later gone (Nat.le_succ _))
  | failed start key ticket peer started opens named answer outcome since answered fails stands =>
      obtain ⟨called, standsNext⟩ := next_of_loading stands
      rw [called, log]
      exact .failed start key ticket peer (started.trans later) opens named answer outcome since
        (answered.next (not_fetchEnds_of_loading stands)) fails standsNext

/-- At all times, the pass of a lookup is in one of the cases. -/
theorem passage (run : GroupRun) (id index : Nat) :
    Passage run id index (run.calls id index) := by
  induction index with
  | zero =>
      refine .before (fun earlier before => absurd before (Nat.not_lt_zero _))
        (fun earlier before => absurd before (Nat.not_lt_zero _)) ?_
      intro caller present
      cases present
  | succ index inductionHypothesis => exact inductionHypothesis.next

end GroupRun

end RingCache
