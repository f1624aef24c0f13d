import RingCache.Proofs.Group.Provenance

/-!
# How lookups fail

A lookup fails for want of a key, or because a call of the source has failed, and in no
other way (`GroupRun.returns_of_ended`): the failure of a peer only lets the pass call the
source, whose answer is then what everybody gets who waits for the pass
(`GroupRun.fallsBack_of_fails`). What a lookup reports of the source is all that the call
has left, the reasons one after the other (`GroupRun.blames_of_ended`).
-/

namespace RingCache

/-! ## What the source leaves -/

namespace Outcome

/-- Whether a text is what a call of the source leaves that has failed: its reasons, the
outermost first, or the wording of a failure. -/
inductive Explains : Outcome → String → Prop
  | chain (reasons : List String) : Explains (.chain reasons) (": ".intercalate reasons)
  | failure (cause : Failure) : Explains (.failure cause) cause.message

variable {outcome : Outcome} {text : String} {result : Result}

theorem explains_iff : outcome.Explains text ↔ outcome.answer? = some (.error text) := by
  constructor
  · intro explains
    cases explains with
    | chain reasons => rfl
    | failure cause => rfl
  · intro answered
    cases outcome with
    | value octets => simp [answer?] at answered
    | chain reasons =>
        obtain rfl : joined reasons = text := by simpa [answer?] using answered
        exact .chain reasons
    | failure cause =>
        obtain rfl : cause.message = text := by simpa [answer?] using answered
        exact .failure cause
    | crash => simp [answer?] at answered

/-- A call of the source gives a value, or a failure with what it leaves. -/
theorem loaded?_eq_some (gives : outcome.loaded? = some result) :
    (∃ value, result = .ok value) ∨
      ∃ text, result = .error (.loader text) ∧ outcome.Explains text := by
  obtain ⟨answer, answered, rfl⟩ := Option.map_eq_some_iff.mp gives
  cases answer with
  | ok value => exact .inl ⟨value, rfl⟩
  | error text => exact .inr ⟨text, rfl, explains_iff.mpr answered⟩

end Outcome

namespace GroupState

/-- Whether a part of a pass returns what the source gives, if the source replies at once. -/
def Heeds (state : GroupState) (key : String) (pass : Pass) : Prop :=
  ∀ outcome result, state.SourceReplies key pass outcome → outcome.loaded? = some result →
    pass.2.2 = .returned result

variable {state : GroupState} {key : String} {outcome : Outcome} {result : Result} {pass : Pass}

/-- A part of a pass that does not call the source. -/
theorem Heeds.of_uncalled (uncalled : .load key ∉ pass.2.1) : state.Heeds key pass :=
  fun _ _ replies _ => absurd replies.1 uncalled

/-- The call of the source ends. -/
theorem loaded_returns (state : GroupState) (key : String) (gives : outcome.loaded? = some result) :
    (state.loaded key outcome).2 = .returned result := by
  obtain ⟨answer, answered, rfl⟩ := Option.map_eq_some_iff.mp gives
  rw [loaded, answered]
  cases answer with
  | ok value => rfl
  | error text => rfl

/-- The source is called. -/
theorem heeds_load (state : GroupState) (key : String) : state.Heeds key (state.load key) := by
  intro outcome result replies gives
  simp only [load, replies.2]
  exact loaded_returns _ key gives

/-- The fetch from a peer ends, and the source may be called. -/
theorem heeds_fetched (state : GroupState) (key : String) (outcome : Outcome) :
    state.Heeds key (state.fetched key outcome) := by
  unfold fetched
  split
  · exact .of_uncalled nofun
  · exact heeds_load (state.count .peerError) key
  · exact .of_uncalled nofun

/-- A pass starts. -/
theorem heeds_start (state : GroupState) (key : String) : state.Heeds key (state.start key) := by
  have picked {pass : Pass} (rest : (state.pick key).1.Heeds key pass) : state.Heeds key pass := by
    rwa [pick_frame state key] at rest
  unfold start
  dsimp only
  split
  · exact picked (heeds_load _ key)
  · split
    · exact .of_uncalled (by simp)
    · rename_i peer _ _ outcome _
      intro other result replies gives
      have later : .load key ∈ ((state.pick key).1.fetched key outcome).2.1 := by
        simpa using replies.1
      exact picked (heeds_fetched (state.pick key).1 key outcome) other result
        ⟨later, replies.2⟩ gives

/-- Lookups without a key make no passes. -/
theorem named_lookups : WorldInvariant Group.loads equip (fun _ => True) (· ≠ "") where
  admitted := invariant.admitted
  acts _ _ _ := trivial
  greets _ _ _ _ := trivial
  starts _ _ _ _ _ := trivial
  resumes _ _ _ _ _ _ _ := trivial
  shares _ _ := trivial

end GroupState

/-- What a lookup of a key may return: without a key it fails for want of one, and otherwise
it gives a value or fails as the source did. -/
inductive Group.Returns (key : String) : Result → Prop
  | unnamed (isEmpty : key = "") : Returns key (.error .emptyKey)
  | value (named : key ≠ "") (octets : Octets) : Returns key (.ok octets)
  | failed (named : key ≠ "") (text : String) : Returns key (.error (.loader text))

namespace GroupRun

/-- Whether a text is what a call of the source for the key has left, which failed in a pass
whose result a lookup received. -/
def Blames (run : GroupRun) (index id : Nat) (key text : String) : Prop :=
  ∃ ticket time leader outcome,
    run.Receives index id key ticket (.error (.loader text)) ∧ time ≤ index ∧
    run.Publishes time leader key ticket (.error (.loader text)) ∧
    run.LoadEnds time leader key outcome ∧ outcome.Explains text

/-- Whether the pass of a lookup relies on the source from some time on: it calls the source,
and returns what the source gives, which is all that anybody receives from this pass. -/
def FallsBack (run : GroupRun) (time leader : Nat) : Prop :=
  ∃ start key ticket, start ≤ time ∧ run.Opens start leader key ticket ∧
    (∀ later, time < later → .load key ∈ run.calls leader later) ∧
    (∀ index result, run.Publishes index leader key ticket result ↔
      ∃ outcome, run.LoadEnds index leader key outcome ∧ outcome.loaded? = some result) ∧
    ∀ index id result, run.Receives index id key ticket result →
      ∃ earlier ≤ index, run.Publishes earlier leader key ticket result

variable {run : GroupRun} {index id ticket : Nat} {key text : String} {outcome : Outcome}
  {result : Result}

/-! ## Passes have keys -/

theorem named_of_passes
    (passes : run.Leads index id key ticket ∨ run.Opens index id key ticket) : key ≠ "" := by
  have admitted := (GroupState.named_lookups.always run trivial index).2
  rcases passes with ⟨caller, present, _, rfl, _⟩ | opens
  · exact admitted caller present
  · obtain ⟨_, base, entrant⟩ := opens.asks
    generalize run.happening index = happening at entrant
    cases entrant with
    | fresh key plan missed => exact GroupState.invariant.admitted _ key () missed
    | woken caller present told => exact admitted caller present

/-! ## What lookups return -/

/-- A lookup that is answered at once has no key, or gets a value. -/
theorem returns_of_answers (answers : run.Answers index id key result) :
    Group.Returns key result := by
  obtain ⟨_, plan, _, greeted⟩ := answers
  rcases GroupState.greet_of_answered greeted with
    ⟨unnamed, rfl, _⟩ | ⟨named, value, cache, _, rfl, _⟩
  · exact .unnamed (by simpa using unnamed)
  · exact .value (by simpa using named) value

/-- A pass returns a value, or a failure of the source. -/
theorem returns_of_publishes (publishes : run.Publishes index id key ticket result) :
    Group.Returns key result := by
  have named := named_of_passes publishes.2
  cases yields_of_publishes publishes with
  | fetched peer outcome called ends gives =>
      obtain ⟨octets, _, rfl⟩ := Outcome.fetched?_eq_some.mp gives
      exact .value named octets
  | loaded outcome called ends gives =>
      rcases Outcome.loaded?_eq_some gives with ⟨value, rfl⟩ | ⟨text, rfl, _⟩
      · exact .value named value
      · exact .failed named text

/-- No lookup fails but for want of a key, or because the source has failed. -/
theorem returns_of_ended (ended : .ended id key (.returned result) ∈ run.notices index) :
    Group.Returns key result := by
  rcases Run.receives_of_ended ended with answers | ⟨ticket, receives⟩
  · exact returns_of_answers answers
  · obtain ⟨_, _, _, publishes⟩ := receives.has_published
    exact returns_of_publishes publishes

/-- A failure of the source is reported with all that it has left. -/
theorem blames_of_ended
    (ended : .ended id key (.returned (.error (.loader text))) ∈ run.notices index) :
    run.Blames index id key text := by
  rcases Run.receives_of_ended ended with ⟨_, plan, _, greeted⟩ | ⟨ticket, receives⟩
  · rcases GroupState.greet_of_answered greeted with
      ⟨_, isFailure, _⟩ | ⟨_, value, cache, _, isValue, _⟩
    · cases isFailure
    · cases isValue
  · obtain ⟨ticket, time, leader, received, before, publishes, yields, _⟩ :=
      traces_of_receives receives
    cases yields with
    | fetched peer outcome called ends gives =>
        obtain ⟨octets, _, isValue⟩ := Outcome.fetched?_eq_some.mp gives
        cases isValue
    | loaded outcome called ends gives =>
        rcases Outcome.loaded?_eq_some gives with ⟨value, isValue⟩ | ⟨own, isFailure, explains⟩
        · cases isValue
        · cases isFailure
          exact ⟨ticket, time, leader, outcome, received, before, publishes, ends, explains⟩

/-! ## Failures of peers -/

/-- When a call of the source ends, the pass that has made it returns what it gives. -/
theorem publishes_of_loadEnds (ends : run.LoadEnds index id key outcome)
    (gives : outcome.loaded? = some result) :
    ∃ ticket, run.Publishes index id key ticket result := by
  have sound := run.sound index
  cases Group.course_of_effect (run.effect index) with
  | idles uncalled unfinished world =>
      exact absurd ends (Group.not_loadEnds uncalled unfinished id key outcome)
  | starts own ownKey base entrant free calls progress started seen ended =>
      obtain ⟨rfl, rfl, replies⟩ := (Group.loadEnds_iff_of_start entrant started seen).mp ends
      have heeds := GroupState.heeds_start base.world key
      rw [started] at heeds
      have returned := heeds outcome result replies gives
      exact ⟨_, ended result returned, .inr ⟨entrant.opens free, rfl⟩⟩
  | resumes leader present ticket stage leads finish finished calls progress resumed seen ended =>
      have isLeader : run.Leads index leader.id leader.key ticket :=
        ⟨leader, present, rfl, rfl, stage, leads⟩
      cases stage with
      | loading =>
          have pass : (_, [], _) = (_, calls, progress) := resumed
          obtain ⟨rfl, isProgress⟩ := Prod.mk.inj (Prod.mk.inj pass).2
          have uncalled : ∀ otherId call, .called otherId call ∉ run.notices index :=
            fun otherId call called => nomatch ((seen _ _).mp called).2
          obtain ⟨rfl, rfl, rfl⟩ :=
            (Group.loadEnds_iff_of_loading sound present leads finished uncalled).mp ends
          have returned := GroupState.loaded_returns (run.state index).world leader.key gives
          exact ⟨ticket, ended result (isProgress.symm.trans returned), .inl isLeader⟩
      | fetching peer =>
          have pass : (run.state index).world.fetched leader.key finish = (_, calls, progress) :=
            resumed
          obtain ⟨rfl, rfl, replies⟩ :=
            (Group.loadEnds_iff_of_fetching sound present leads finished pass seen).mp ends
          have heeds := GroupState.heeds_fetched (run.state index).world leader.key finish
          rw [pass] at heeds
          have returned := heeds outcome result replies gives
          exact ⟨ticket, ended result returned, .inl isLeader⟩

/-- A pass that a lookup leads or starts was started by it. -/
theorem opens_of_passes
    (passes : run.Leads index id key ticket ∨ run.Opens index id key ticket) :
    ∃ start, run.Opens start id key ticket := by
  rcases passes with leads | opens
  · obtain ⟨start, _, opens⟩ := leads.opened
    exact ⟨start, opens⟩
  · exact ⟨index, opens⟩

/-- After a fetch that fails, a pass relies on the source. -/
theorem fallsBack_of_fails {time leader : Nat} (ends : run.FetchEnds time leader outcome)
    (fails : outcome.fails) : run.FallsBack time leader := by
  obtain ⟨⟨start, key, ticket, peer, since, opens, named⟩, _⟩ :=
    ends.answered (Nat.lt_succ_self time)
  refine ⟨start, key, ticket, since, opens, fun later after => ?_, fun index result => ?_,
    fun index id result receives => ?_⟩
  · have failed : run.FetchFailed later leader := ⟨time, after, outcome, ends, fails⟩
    rcases calls_of_named opens named (Nat.lt_of_le_of_lt since after) with
      ⟨notFailed, _⟩ | ⟨_, called⟩
    · exact absurd failed notFailed
    · rw [called]
      exact List.mem_cons_of_mem _ (List.mem_singleton_self _)
  · constructor
    · intro publishes
      cases yields_of_publishes publishes with
      | fetched peer other called otherEnds gives =>
          obtain ⟨_, rfl⟩ := ends.once otherEnds
          obtain ⟨octets, succeeds, _⟩ := Outcome.fetched?_eq_some.mp gives
          obtain ⟨failure, failed⟩ := fails
          rw [failed] at succeeds
          cases succeeds
      | loaded other called loadEnds gives => exact ⟨other, loadEnds, gives⟩
    · rintro ⟨other, loadEnds, gives⟩
      obtain ⟨own, publishes⟩ := publishes_of_loadEnds loadEnds gives
      obtain ⟨_, also⟩ := opens_of_passes publishes.2
      obtain ⟨_, _, rfl⟩ := opens.once also
      exact publishes
  · obtain ⟨earlier, first, before, publishes⟩ := receives.has_published
    obtain ⟨_, also⟩ := opens_of_passes publishes.2
    obtain ⟨_, rfl, _⟩ := opens.sameTicket also
    exact ⟨earlier, before, publishes⟩

end GroupRun

end RingCache
