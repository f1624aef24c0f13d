import RingCache.Proofs.Group.Passes

/-!
# Where the result of a pass comes from

A part of a pass, from one stop to the next, may see a fetch end and a call of the
source end. `Draws` says what it then has from them: the cache keeps a value only
if it is the answer of the source, and a result that is returned is the value that
was fetched or the answer of the source. It holds of whatever a pass does between
two stops (`draws_start`, `draws_fetched`, `draws_loaded`).

All this is for one key of one group: a group keeps its name and its source
(`GroupRun.named`), and the last call of a lookup that is there is the one for its
own key that it waits for (`GroupRun.getLast?_calls`).
-/

namespace RingCache

/-- The end of a call, if it ends at once. -/
def Reply.outcome? : Reply → Option Outcome
  | .now outcome => some outcome
  | .held => none

theorem Reply.outcome?_eq_some {reply : Reply} {outcome : Outcome} :
    reply.outcome? = some outcome ↔ reply = .now outcome := by
  cases reply <;> simp [outcome?]

/-- What a lookup returns when the source has answered. -/
def Outcome.loaded? (outcome : Outcome) : Option Result :=
  outcome.answer?.map (Except.mapError Failure.loader)

/-- What a lookup returns when a peer has given a value. -/
def Outcome.fetched? (outcome : Outcome) : Option Result :=
  match outcome.result? with
  | some (.ok octets) => some (.ok octets)
  | some (.error _) => none
  | none => none

/-- Only a value is returned that a peer has given. -/
theorem Outcome.fetched?_eq_some {outcome : Outcome} {result : Result} :
    outcome.fetched? = some result ↔
      ∃ octets, outcome.result? = some (.ok octets) ∧ .ok octets = result := by
  rw [fetched?]
  rcases outcome.result? with _ | _ | octets <;> simp

/-- The cache when a call of the source for a key has ended, if one has. -/
def LocalCache.receive (cache : LocalCache) (key : String) (loaded? : Option Outcome) :
    LocalCache :=
  match loaded?.bind Outcome.answer? with
  | some (.ok value) => (cache.put key value).1
  | some (.error _) => cache
  | none => cache

/-- Only a value is kept. -/
theorem LocalCache.receive_cases (cache : LocalCache) (key : String) (loaded? : Option Outcome) :
    (∃ outcome value, loaded? = some outcome ∧ outcome.answer? = some (.ok value) ∧
        cache.receive key loaded? = (cache.put key value).1) ∨
      ((∀ outcome value, loaded? = some outcome → outcome.answer? ≠ some (.ok value)) ∧
        cache.receive key loaded? = cache) := by
  rw [receive]
  cases loaded? with
  | none => exact .inr ⟨nofun, rfl⟩
  | some outcome =>
      rw [Option.bind_some]
      cases answered : outcome.answer? with
      | none =>
          refine .inr ⟨?_, rfl⟩
          rintro other value isOutcome succeeds
          rw [← Option.some.inj isOutcome, answered] at succeeds
          cases succeeds
      | some answer =>
          cases answer with
          | ok value => exact .inl ⟨outcome, value, rfl, answered, rfl⟩
          | error text =>
              refine .inr ⟨?_, rfl⟩
              rintro other value isOutcome succeeds
              rw [← Option.some.inj isOutcome, answered] at succeeds
              cases succeeds

namespace GroupState

/-- What a part of a pass has from the fetch and from the call of the source that
end in it, if they do. -/
structure Draws (state : GroupState) (key : String) (fetched? loaded? : Option Outcome)
    (pass : Pass) : Prop where
  /-- The source is called for the key of the pass. -/
  asks : ∀ other, .load other ∈ pass.2.1 → other = key
  /-- The answer of the source is kept, and nothing else. -/
  keeps : pass.1.cache = state.cache.receive key loaded?
  /-- What is returned was fetched, or is the answer of the source. -/
  returns : ∀ result, pass.2.2 = .returned result →
    fetched?.bind Outcome.fetched? = some result ∨ loaded?.bind Outcome.loaded? = some result

/-- Whether the call of the source that a pass makes ends at once with an outcome. -/
def SourceReplies (state : GroupState) (key : String) (pass : Pass) (outcome : Outcome) : Prop :=
  .load key ∈ pass.2.1 ∧ state.source.load state.sourceCalls key = .now outcome

variable {state other : GroupState} {key : String} {fetched? loaded? : Option Outcome}
  {pass : Pass}

/-- A part of a pass that makes no call and keeps nothing. -/
theorem Draws.of_quiet {progress : Progress Stage Result} (sameCache : other.cache = state.cache)
    (returns : ∀ result, progress = .returned result →
      fetched?.bind Outcome.fetched? = some result) :
    state.Draws key fetched? none (other, [], progress) where
  asks _ called := nomatch called
  keeps := sameCache
  returns result returned := .inl (returns result returned)

/-- A pass that makes a call of the source, or of a peer. -/
theorem Draws.calling {call : Call} (rest : other.Draws key fetched? loaded? pass)
    (isOwn : ∀ asked, call = .load asked → asked = key) (sameCache : other.cache = state.cache) :
    state.Draws key fetched? loaded? (pass.1, call :: pass.2.1, pass.2.2) where
  asks asked called := by
    rcases List.mem_cons.mp called with isCall | later
    · exact isOwn asked isCall.symm
    · exact rest.asks asked later
  keeps := sameCache ▸ rest.keeps
  returns := rest.returns

/-! ## What a pass does between two stops -/

/-- The call of the source ends. -/
theorem draws_loaded (state : GroupState) (key : String) (outcome : Outcome) :
    state.Draws key none (some outcome)
      ((state.loaded key outcome).1, [], (state.loaded key outcome).2) := by
  have answered : ∀ {answer}, outcome.answer? = some answer →
      (some outcome).bind Outcome.loaded? = some (answer.mapError Failure.loader) := by
    intro answer isAnswer
    rw [Option.bind_some, Outcome.loaded?, isAnswer]
    rfl
  unfold loaded
  split
  · rename_i value isAnswer
    refine ⟨nofun, ?_, fun result returned => .inr ?_⟩
    · rw [LocalCache.receive, Option.bind_some, isAnswer]
      rfl
    · rw [← Progress.returned.inj returned]
      exact answered isAnswer
  · rename_i text isAnswer
    refine ⟨nofun, ?_, fun result returned => .inr ?_⟩
    · rw [LocalCache.receive, Option.bind_some, isAnswer]
      rfl
    · rw [← Progress.returned.inj returned]
      exact answered isAnswer
  · rename_i noAnswer
    refine ⟨nofun, ?_, nofun⟩
    rw [LocalCache.receive, Option.bind_some, noAnswer]

/-- The source is called, and may answer at once. -/
theorem draws_load (state : GroupState) (key : String) :
    ∃ loaded?, state.Draws key none loaded? (state.load key) ∧
      ∀ outcome, loaded? = some outcome ↔ state.SourceReplies key (state.load key) outcome := by
  have called := (load_calls state key).1
  refine ⟨(state.source.load state.sourceCalls key).outcome?, ?_, fun outcome => ?_⟩
  · unfold load
    dsimp only
    cases state.source.load state.sourceCalls key with
    | held =>
        have waits : Draws { state with sourceCalls := state.sourceCalls + 1 } key none none
            (_, [], .blocked .loading) := .of_quiet rfl nofun
        exact waits.calling (fun asked isCall => (Call.load.inj isCall).symm) rfl
    | now outcome =>
        have ends := draws_loaded { state with sourceCalls := state.sourceCalls + 1 } key outcome
        exact ends.calling (fun asked isCall => (Call.load.inj isCall).symm) rfl
  · rw [Reply.outcome?_eq_some, SourceReplies, called]
    exact (and_iff_right (List.mem_singleton_self _)).symm

/-- The fetch from a peer ends, and the source may be called. -/
theorem draws_fetched (state : GroupState) (key : String) (outcome : Outcome) :
    ∃ loaded?, state.Draws key (some outcome) loaded? (state.fetched key outcome) ∧
      ∀ other, loaded? = some other ↔
        state.SourceReplies key (state.fetched key outcome) other := by
  have silent : ∀ pass : Pass, pass.2.1 = [] → ∀ other,
      (none : Option Outcome) = some other ↔ state.SourceReplies key pass other := by
    intro pass nothing other
    rw [SourceReplies, nothing]
    simp
  unfold fetched
  split
  · rename_i value succeeds
    refine ⟨none, .of_quiet rfl fun result returned => ?_, silent _ rfl⟩
    rw [← Progress.returned.inj returned, Option.bind_some, Outcome.fetched?, succeeds]
  · obtain ⟨loaded?, rest, ends⟩ := draws_load (state.count .peerError) key
    refine ⟨loaded?, ⟨rest.asks, rest.keeps, fun result returned => ?_⟩, ends⟩
    rcases rest.returns result returned with fetched | answered
    · cases fetched
    · exact .inr answered
  · exact ⟨none, .of_quiet rfl nofun, silent _ rfl⟩

/-- A pass starts: a peer or the source is called, and may answer at once. -/
theorem draws_start (state : GroupState) (key : String) :
    ∃ fetched? loaded?, state.Draws key fetched? loaded? (state.start key) ∧
      (∀ outcome, fetched? = some outcome → ∃ peer, state.owner? key = some peer ∧
        peer.fetch state.name key = .now outcome) ∧
      ∀ outcome, loaded? = some outcome ↔
        state.SourceReplies key (state.start key) outcome := by
  have picked := (pick_eq state key).1
  have frame := pick_frame state key
  cases owner : state.owner? key with
  | none =>
      rw [owner] at picked
      unfold start
      dsimp only
      rw [picked]
      obtain ⟨loaded?, rest, ends⟩ := draws_load (state.pick key).1 key
      rw [frame] at rest ends ⊢
      exact ⟨none, loaded?, ⟨rest.asks, rest.keeps, rest.returns⟩, nofun, ends⟩
  | some peer =>
      rw [owner] at picked
      unfold start
      dsimp only
      rw [picked]
      dsimp only
      cases reply : peer.fetch state.name key with
      | held =>
          have waits : (state.pick key).1.Draws key none none
              ((state.pick key).1, [], .blocked (.fetching peer)) := .of_quiet rfl nofun
          refine ⟨none, none, waits.calling nofun (by rw [frame]), nofun, fun outcome => ?_⟩
          simp [SourceReplies]
      | now outcome =>
          obtain ⟨loaded?, rest, ends⟩ := draws_fetched (state.pick key).1 key outcome
          refine ⟨some outcome, loaded?, rest.calling nofun (by rw [frame]),
            fun other isOutcome => ⟨peer, rfl, Option.some.inj isOutcome ▸ reply⟩, fun other => ?_⟩
          rw [ends, SourceReplies, SourceReplies, frame]
          simp

/-! ## Names and sources -/

/-- A group has one name and one source for all times. -/
def Named (state : GroupState) (name : String) (source : Source) : Prop :=
  state.name = name ∧ state.source = source

variable {name : String} {source : Source}

theorem named_pass (name : String) (source : Source) (key : String) :
    PassInvariant (Named · name source) key where
  counts _ _ named := named
  keeps _ _ named := named
  calls _ named := named

theorem Named.greet (named : state.Named name source) (key : String) :
    (state.greet key).1.Named name source := by
  cases answered : (state.greet key).2 with
  | none =>
      rw [(greet_of_missed answered).2]
      exact named
  | some result =>
      rcases greet_of_answered answered with ⟨_, _, same⟩ | ⟨_, _, _, _, _, counted⟩
      · rw [same]
        exact named
      · rw [counted]
        exact named

/-- Nothing changes the name or the source of a group. -/
theorem named_invariant (name : String) (source : Source) :
    WorldInvariant Group.loads equip (Named · name source) fun _ => True where
  admitted _ _ _ _ := trivial
  acts _ _ named := named
  greets _ key _ named := named.greet key
  starts _ key _ named _ := (named_pass name source key).start (by rw [pick_frame]; exact named)
  resumes _ key _ stage outcome named _ := (named_pass name source key).resume named stage outcome
  shares _ named := named

end GroupState

/-- At all times of a run, the group has the name and the source that it had at
first. -/
theorem GroupRun.named (run : GroupRun) (index : Nat) :
    (run.state index).world.Named run.world.name run.world.source :=
  ((GroupState.named_invariant _ _).always run ⟨rfl, rfl⟩ index).1

/-! ## The call that a lookup waits for -/

/-- The call whose end a pass of a group's key waits for at a stage. -/
def Stage.call (stage : Stage) (group key : String) : Call :=
  match stage with
  | .fetching peer => .fetch peer group key
  | .loading => .load key

/-- The call whose end a lookup waits for, if it makes a pass. -/
def Caller.call? (caller : Caller Unit Stage Result) (group : String) : Option Call :=
  match caller.phase with
  | .leading _ stage => some (stage.call group caller.key)
  | .waiting _ => none
  | .told _ => none

/-- The last call of a lookup that is there is the one that it waits for; a lookup
without a pass has made none. -/
theorem GroupRun.getLast?_calls {run : GroupRun} {index : Nat}
    {caller : Caller Unit Stage Result} (present : caller ∈ (run.state index).callers) :
    (run.calls caller.id index).getLast? = caller.call? run.world.name := by
  have atStage : ∀ {key ticket stage}, run.AtStage index caller.id key ticket stage →
      caller.call? run.world.name = some (stage.call run.world.name key) := by
    intro key ticket stage stands
    rcases stands with ⟨other, otherPresent, sameId, rfl, phase⟩ | gone
    · obtain rfl := (run.sound index).sameCaller otherPresent present sameId
      rw [Caller.call?, phase]
    · exact absurd rfl (gone.2 caller present)
  have passage := run.passage caller.id index
  generalize run.calls caller.id index = calls at passage
  cases passage with
  | before unstarted unanswered follows =>
      have notLeading := follows caller present rfl
      rw [Caller.call?]
      cases phase : caller.phase with
      | leading ticket stage =>
          rw [phase] at notLeading
          cases notLeading
      | waiting ticket => rfl
      | told result => rfl
  | loads start key ticket started opens nobody unanswered stands => exact (atStage stands).symm
  | fetches start key ticket peer started opens named unanswered stands =>
      rw [(run.named start).1]
      exact (atStage stands).symm
  | fetched start key ticket peer started opens named answer outcome since answered succeeds gone =>
      exact absurd rfl (gone.2 caller present)
  | failed start key ticket peer started opens named answer outcome since answered fails stands =>
      exact (atStage stands).symm

end RingCache
