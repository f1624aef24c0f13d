import RingCache.Proofs.Group.Residents

/-!
# What a pass counts

A pass makes calls, and each of them is answered, still waited for, or lost when
the pass crashes. `Accounts` says that a part of a pass counts just that: every
call is answered or left open (`answers`), and the end of the pass is counted by
the kind of its last call (`counts`). It holds of whatever a pass does between two
stops (`accounts_start`, `accounts_resume`).
-/

namespace RingCache

/-- The two kinds of calls. -/
inductive CallKind where
  /-- A fetch from a peer. -/
  | fetch
  /-- A call of the source. -/
  | load
  deriving DecidableEq

/-- The kind of a call. -/
def Call.kind : Call → CallKind
  | .fetch _ _ _ => .fetch
  | .load _ => .load

/-- The kind of the call that a pass waits for at a stage. -/
def Stage.kind : Stage → CallKind
  | .fetching _ => .fetch
  | .loading => .load

/-- The kind of the last call of a pass that had called one of a kind before, if
any, and then makes these calls. -/
def CallKind.last? (stood : Option CallKind) (calls : List Call) : Option CallKind :=
  (calls.getLast?.map Call.kind).or stood

/-- The kind of the call of such a pass that has not been answered, if there is one. -/
def CallKind.open? (stood : Option CallKind) (calls : List Call) :
    Progress Stage Result → Option CallKind
  | .returned _ => none
  | .blocked _ => last? stood calls
  | .crashed => last? stood calls

/-- What is counted when a pass ends whose last call was of a kind. -/
def CallKind.counter? : CallKind → Ending Result → Option Counter
  | .fetch, .returned _ => some .peerLoad
  | .load, .returned (.ok _) => some .localLoad
  | .load, .returned (.error _) => some .localError
  | _, .cancelled => none
  | _, .crashed => none

/-- One for the value that is chosen, and zero for others. -/
def tally {α : Type} [DecidableEq α] (chosen : Option α) (value : α) : Nat :=
  if chosen = some value then 1 else 0

/-! ## Counters -/

namespace Counters

/-- How often a thing was counted. -/
def value (counters : Counters) : Counter → Nat
  | .get => counters.gets
  | .hit => counters.hits
  | .load => counters.loads
  | .sharedLoad => counters.sharedLoads
  | .peerLoad => counters.peerLoads
  | .peerError => counters.peerErrors
  | .localLoad => counters.localLoads
  | .localError => counters.localErrors
  | .eviction => counters.evictions

/-- How many calls of a kind were answered. -/
def answered (counters : Counters) : CallKind → Nat
  | .fetch => counters.value .peerLoad + counters.value .peerError
  | .load => counters.value .localLoad + counters.value .localError

@[simp] theorem value_count (counters : Counters) (counted counter : Counter) :
    (counters.count counted).value counter =
      counters.value counter + tally (some counted) counter := by
  cases counted <;> cases counter <;> rfl

/-- A call that returns is answered by the counter of its end. -/
theorem answered_count {kind : CallKind} {result : Result} {counted : Counter}
    (isCounter : kind.counter? (.returned result) = some counted) (counters : Counters)
    (other : CallKind) :
    (counters.count counted).answered other =
      counters.answered other + tally (some kind) other := by
  have oneOfThree : (kind = .fetch ∧ counted = .peerLoad) ∨
      (kind = .load ∧ (counted = .localLoad ∨ counted = .localError)) := by
    cases kind with
    | fetch => exact .inl ⟨rfl, (Option.some.inj isCounter).symm⟩
    | load =>
        cases result with
        | ok value => exact .inr ⟨rfl, .inl (Option.some.inj isCounter).symm⟩
        | error failure => exact .inr ⟨rfl, .inr (Option.some.inj isCounter).symm⟩
  rcases oneOfThree with ⟨rfl, rfl⟩ | ⟨rfl, rfl | rfl⟩ <;>
    cases other <;> simp [answered, tally] <;> omega

end Counters

/-! ## Parts of passes -/

namespace GroupState

@[simp] theorem counters_count (state : GroupState) (counter : Counter) :
    (state.count counter).counters = state.counters.count counter := rfl

/-- A pass that stood at a call of a kind, or had made none, makes calls and counts
what became of them. -/
structure Accounts (state : GroupState) (stood : Option CallKind) (pass : Pass) : Prop where
  /-- By then it has made a call. -/
  called : CallKind.last? stood pass.2.1 ≠ none
  /-- It waits for its last call, if it waits. -/
  waits : ∀ stage, pass.2.2 = .blocked stage →
    CallKind.last? stood pass.2.1 = some stage.kind
  /-- Its end is counted by its last call. -/
  counts : ∀ counter, counter ≠ .peerError → counter ≠ .eviction →
    pass.1.counters.value counter = state.counters.value counter +
      tally ((CallKind.last? stood pass.2.1).bind fun kind =>
        pass.2.2.ending?.bind kind.counter?) counter
  /-- All its calls are answered, but for the last one if the pass has not returned. -/
  answers : ∀ kind,
    state.counters.answered kind + tally stood kind +
        pass.2.1.countP (fun call => call.kind = kind) =
      pass.1.counters.answered kind + tally (CallKind.open? stood pass.2.1 pass.2.2) kind
  /-- The source has had all calls of it. -/
  sourced : pass.1.sourceCalls =
    state.sourceCalls + pass.2.1.countP (fun call => call.kind = .load)

variable {state : GroupState} {key : String}

namespace Accounts

/-- A pass that has made a call waits for its end. -/
theorem waiting (state : GroupState) (stage : Stage) :
    state.Accounts (some stage.kind) (state, [], .blocked stage) where
  called := Option.some_ne_none _
  waits other blocked := by cases blocked; rfl
  counts _ _ _ := rfl
  answers _ := rfl
  sourced := rfl

/-- A pass that crashes at a call counts nothing. -/
theorem crashed (state : GroupState) (kind : CallKind) :
    state.Accounts (some kind) (state, [], .crashed) where
  called := Option.some_ne_none _
  waits _ blocked := nomatch blocked
  counts _ _ _ := by cases kind <;> rfl
  answers _ := rfl
  sourced := rfl

/-- A pass that returns what its call gave counts the answer. -/
theorem returned (state : GroupState) {kind : CallKind} {result : Result} {counted : Counter}
    (isCounter : kind.counter? (.returned result) = some counted) :
    state.Accounts (some kind) (state.count counted, [], .returned result) where
  called := Option.some_ne_none _
  waits _ blocked := nomatch blocked
  counts counter _ _ := by
    rw [counters_count, Counters.value_count]
    exact congrArg (fun credit => _ + tally credit counter) isCounter.symm
  answers other := (Counters.answered_count isCounter state.counters other).symm
  sourced := rfl

/-- Evictions are counted, but are no answers. -/
theorem of_value_eq {other : GroupState} {stood : Option CallKind} {pass : Pass}
    (rest : other.Accounts stood pass)
    (same : ∀ counter, counter ≠ .eviction →
      other.counters.value counter = state.counters.value counter)
    (sameCalls : other.sourceCalls = state.sourceCalls) : state.Accounts stood pass where
  called := rest.called
  waits := rest.waits
  counts counter notError notEviction :=
    same counter notEviction ▸ rest.counts counter notError notEviction
  answers kind := by
    have sameAnswered : other.counters.answered kind = state.counters.answered kind := by
      cases kind with
      | fetch => rw [Counters.answered, same .peerLoad nofun, same .peerError nofun]; rfl
      | load => rw [Counters.answered, same .localLoad nofun, same .localError nofun]; rfl
    exact sameAnswered ▸ rest.answers kind
  sourced := sameCalls ▸ rest.sourced

/-- A pass that makes a call goes on as from this call. -/
theorem calling (call : Call) {other : GroupState} {pass : Pass}
    (rest : other.Accounts (some call.kind) pass)
    (same : ∀ counter, other.counters.value counter = state.counters.value counter)
    (isCall : other.sourceCalls = state.sourceCalls + tally (some call.kind) .load) :
    state.Accounts none (pass.1, call :: pass.2.1, pass.2.2) := by
  have sameLast : CallKind.last? none (call :: pass.2.1) =
      CallKind.last? (some call.kind) pass.2.1 := by
    rw [CallKind.last?, CallKind.last?, List.getLast?_cons]
    cases pass.2.1.getLast? <;> rfl
  have sameOpen : CallKind.open? none (call :: pass.2.1) pass.2.2 =
      CallKind.open? (some call.kind) pass.2.1 pass.2.2 := by
    cases pass.2.2 <;> first | rfl | exact sameLast
  refine ⟨sameLast ▸ rest.called, sameLast ▸ rest.waits, fun counter notError notEviction => ?_,
    fun kind => ?_, ?_⟩
  · rw [sameLast, ← same]
    exact rest.counts counter notError notEviction
  · have answers := rest.answers kind
    have sameAnswered : other.counters.answered kind = state.counters.answered kind := by
      cases kind <;> simp only [Counters.answered, same]
    rw [sameOpen, ← answers, sameAnswered, List.countP_cons]
    simp only [tally, Option.some.injEq, decide_eq_true_eq, reduceCtorEq, if_false]
    omega
  · have sourced := rest.sourced
    rw [isCall] at sourced
    rw [List.countP_cons, sourced]
    simp only [tally, Option.some.injEq, decide_eq_true_eq]
    omega

/-- A pass whose peer has failed counts the failure and goes on as if it had called
nobody. -/
theorem refused {pass : Pass} (rest : (state.count .peerError).Accounts none pass) :
    state.Accounts (some .fetch) pass := by
  have sameLast : CallKind.last? (some .fetch) pass.2.1 = CallKind.last? none pass.2.1 := by
    obtain ⟨kind, isKind⟩ := Option.ne_none_iff_exists'.mp rest.called
    have isLast : pass.2.1.getLast?.map Call.kind = some kind := by
      rwa [CallKind.last?, Option.or_none] at isKind
    rw [CallKind.last?, CallKind.last?, isLast, Option.some_or, Option.some_or]
  have sameOpen : CallKind.open? (some .fetch) pass.2.1 pass.2.2 =
      CallKind.open? none pass.2.1 pass.2.2 := by
    cases pass.2.2 <;> first | rfl | exact sameLast
  refine ⟨sameLast ▸ rest.called, sameLast ▸ rest.waits, fun counter notError notEviction => ?_,
    fun kind => ?_, rest.sourced⟩
  · rw [sameLast, rest.counts counter notError notEviction, counters_count, Counters.value_count]
    have uncounted : tally (some .peerError) counter = 0 := if_neg (by simpa using notError.symm)
    rw [uncounted, Nat.add_zero]
  · have answers := rest.answers kind
    rw [sameOpen, ← answers]
    cases kind <;> simp only [tally, counters_count] <;> rfl

end Accounts

/-! ## What a pass does between two stops -/

theorem value_keep (state : GroupState) (key : String) (value : Octets) {counter : Counter}
    (notEviction : counter ≠ .eviction) :
    (state.keep key value).counters.value counter = state.counters.value counter := by
  cases counter <;> first | rfl | exact absurd rfl notEviction

/-- The call of the source ends. -/
theorem accounts_loaded (state : GroupState) (key : String) (outcome : Outcome) :
    state.Accounts (some .load)
      ((state.loaded key outcome).1, [], (state.loaded key outcome).2) := by
  rw [loaded]
  split
  · rename_i value _
    have kept : (state.keep key value).Accounts (some .load)
        ((state.keep key value).count .localLoad, [], .returned (.ok value)) :=
      .returned _ rfl
    exact kept.of_value_eq (fun _ notEviction => value_keep state key value notEviction) rfl
  · exact .returned state rfl
  · exact .crashed state .load

/-- The source is called. -/
theorem accounts_load (state : GroupState) (key : String) :
    state.Accounts none (state.load key) := by
  rw [load]
  dsimp only
  split
  · have waits := Accounts.waiting { state with sourceCalls := state.sourceCalls + 1 } .loading
    exact waits.calling (.load key) (fun _ => rfl) rfl
  · rename_i outcome _
    have ends := accounts_loaded { state with sourceCalls := state.sourceCalls + 1 } key outcome
    exact ends.calling (.load key) (fun _ => rfl) rfl

/-- The fetch from a peer ends. -/
theorem accounts_fetched (state : GroupState) (key : String) (outcome : Outcome) :
    state.Accounts (some .fetch) (state.fetched key outcome) := by
  rw [fetched]
  split
  · exact .returned state rfl
  · exact .refused (accounts_load _ key)
  · exact .crashed state .fetch

/-- A pass starts. -/
theorem accounts_start (state : GroupState) (key : String) :
    state.Accounts none (state.start key) := by
  have picked : ∀ counter,
      (state.pick key).1.counters.value counter = state.counters.value counter :=
    fun _ => by rw [pick_frame]
  have sameCalls : (state.pick key).1.sourceCalls = state.sourceCalls := by rw [pick_frame]
  rw [start]
  dsimp only
  split
  · exact (accounts_load _ key).of_value_eq (fun counter _ => picked counter) sameCalls
  · rename_i peer _
    split
    · have waits := Accounts.waiting (state.pick key).1 (.fetching peer)
      exact waits.calling (.fetch peer state.name key) picked sameCalls
    · rename_i outcome _
      have goesOn := accounts_fetched (state.pick key).1 key outcome
      exact goesOn.calling (.fetch peer state.name key) picked sameCalls

/-- A pass goes on from a stage. -/
theorem accounts_resume (state : GroupState) (key : String) (stage : Stage) (outcome : Outcome) :
    state.Accounts (some stage.kind) (state.resume key stage outcome) := by
  cases stage with
  | fetching peer => exact accounts_fetched state key outcome
  | loading => exact accounts_loaded state key outcome

end GroupState

end RingCache
