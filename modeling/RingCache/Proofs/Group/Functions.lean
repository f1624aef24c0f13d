import RingCache.Proofs.Flight.Promises
import RingCache.Proofs.Group.Passes
import RingCache.Proofs.Node.Exchange

/-!
# Groups that compute a function

The source of a group may be a function of the key. Then the group keeps only values of
this function, and, as long as no peer gives another value, lookups return nothing else
(`GroupState.promises`): what a peer cannot give comes from the source. So a lookup's
result says nothing of which node has computed it.
-/

namespace RingCache

/-- What a lookup of a key is to return in a group that computes a function. -/
def Source.answer (function : String → Except String Octets) (key : String) : Result :=
  if key = "" then .error .emptyKey else (function key).mapError .loader

theorem Source.answer_of_ok {function : String → Except String Octets} {key : String}
    {value : Octets} (named : key ≠ "") (computes : function key = .ok value) :
    answer function key = .ok value := by
  rw [answer, if_neg named, computes]
  rfl

/-- A source that is a function answers at once. -/
theorem Source.ofFunction_load (function : String → Except String Octets) (calls : Nat)
    (key : String) : ∃ outcome, (ofFunction function).load calls key = .now outcome ∧
      outcome.answer? = some (function key) := by
  dsimp only [ofFunction]
  cases function key with
  | ok value => exact ⟨_, rfl, rfl⟩
  | error text =>
      refine ⟨_, rfl, ?_⟩
      rw [Outcome.answer?]
      simp [Outcome.joined]

namespace GroupState

variable {state next : GroupState} {name key : String} {function : String → Except String Octets}

/-! ## What lookups leave as it is -/

/-- What makes a group the one that it is, whatever lookups do. -/
def nature (state : GroupState) : String × Source × Option Picker :=
  (state.name, state.source, state.picker)

theorem name_of_nature {other : GroupState} (same : state.nature = other.nature) :
    state.name = other.name :=
  congrArg Prod.fst same

theorem source_of_nature {other : GroupState} (same : state.nature = other.nature) :
    state.source = other.source :=
  congrArg (fun nature => nature.2.1) same

theorem picker_of_nature {other : GroupState} (same : state.nature = other.nature) :
    state.picker = other.picker :=
  congrArg (fun nature => nature.2.2) same

theorem owner?_of_nature {other : GroupState} (same : state.nature = other.nature) :
    state.owner? = other.owner? := by
  funext key
  rw [owner?, owner?, picker_of_nature same]

/-- A pass does not change what makes a group. -/
theorem nature_pass (nature : String × Source × Option Picker) (key : String) :
    PassInvariant (·.nature = nature) key where
  counts _ _ same := same
  keeps _ _ same := same
  calls _ same := same

theorem nature_greet (state : GroupState) (key : String) :
    (state.greet key).1.nature = state.nature := by
  rw [GroupState.greet]
  split
  · rfl
  · dsimp only
    split <;> rfl

theorem nature_start (state : GroupState) (key : String) :
    (state.start key).1.nature = state.nature :=
  (nature_pass state.nature key).start (by rw [pick_frame]; rfl)

theorem nature_resume (state : GroupState) (key : String) (stage : Stage) (outcome : Outcome) :
    (state.resume key stage outcome).1.nature = state.nature :=
  (nature_pass state.nature key).resume rfl stage outcome

/-! ## Groups that keep values of a function -/

/-- Whether a group keeps only values of a function. -/
structure Truthful (function : String → Except String Octets) (state : GroupState) : Prop where
  formed : state.cache.Formed
  kept : ∀ pair ∈ state.cache.entries, function pair.1 = .ok pair.2

/-- A lookup that is answered at once returns what it is to return. -/
theorem Truthful.greet (truthful : state.Truthful function) (key : String) :
    (state.greet key).1.Truthful function ∧
      ∀ result, (state.greet key).2 = some result → result = Source.answer function key := by
  cases answered : (state.greet key).2 with
  | none =>
      rw [(greet_of_missed answered).2]
      exact ⟨⟨truthful.formed, truthful.kept⟩, nofun⟩
  | some result =>
      rcases greet_of_answered answered with
        ⟨unnamed, refused, same⟩ | ⟨named, value, cache, read, isValue, counted⟩
      · rw [same, refused]
        refine ⟨truthful, fun other isOther => ?_⟩
        rw [Source.answer, if_pos (by simpa using unnamed), Option.some.inj isOther]
      · obtain ⟨listed, others⟩ := truthful.formed.entries_get? read
        rw [counted, isValue]
        refine ⟨⟨truthful.formed.get? read, fun pair mem => truthful.kept pair (others pair mem)⟩,
          fun other isOther => ?_⟩
        rw [← Option.some.inj isOther]
        exact (Source.answer_of_ok (by simpa using named) (truthful.kept _ listed)).symm

theorem Truthful.keep (truthful : state.Truthful function) (named : key ≠ "") {value : Octets}
    (computed : function key = .ok value) : (state.keep key value).Truthful function where
  formed := truthful.formed.put named value
  kept pair mem := by
    rcases truthful.formed.entries_put key value mem with rfl | ⟨before, _⟩
    · exact computed
    · exact truthful.kept pair before

/-! ## Groups that compute a function -/

/-- Whether a peer is asked over the network, by a client of a plain origin. -/
def IsPlain (peer : Peer) : Prop :=
  ∃ origin, Url.isOrigin origin ∧ peer = (PeerPath.clientOf origin).peer .online

/-- Whether a group with a name computes a function and asks only such peers. -/
structure Computes (name : String) (function : String → Except String Octets)
    (state : GroupState) : Prop where
  name : state.name = name
  source : state.source = .ofFunction function
  formed : state.cache.Formed
  kept : ∀ pair ∈ state.cache.entries, function pair.1 = .ok pair.2
  asks : ∀ key peer, state.owner? key = some peer → IsPlain peer

theorem Computes.truthful (computes : state.Computes name function) : state.Truthful function :=
  ⟨computes.formed, computes.kept⟩

/-- A group goes on to compute the function if it is the same, and keeps values of it. -/
theorem Computes.of_nature (computes : state.Computes name function)
    (same : next.nature = state.nature) (truthful : next.Truthful function) :
    next.Computes name function where
  name := (name_of_nature same).trans computes.name
  source := (source_of_nature same).trans computes.source
  formed := truthful.formed
  kept := truthful.kept
  asks := owner?_of_nature same ▸ computes.asks

theorem Computes.count (computes : state.Computes name function) (counter : Counter) :
    (state.count counter).Computes name function :=
  ⟨computes.name, computes.source, computes.formed, computes.kept, computes.asks⟩

/-- A lookup that is answered at once returns what it is to return. -/
theorem Computes.greet (computes : state.Computes name function) (key : String) :
    (state.greet key).1.Computes name function ∧
      ∀ result, (state.greet key).2 = some result → result = Source.answer function key := by
  obtain ⟨truthful, answers⟩ := computes.truthful.greet key
  exact ⟨computes.of_nature (nature_greet state key) truthful, answers⟩

theorem Computes.keep (computes : state.Computes name function) (named : key ≠ "")
    {value : Octets} (computed : function key = .ok value) :
    (state.keep key value).Computes name function :=
  computes.of_nature rfl (computes.truthful.keep named computed)

/-- When the source has answered, the pass ends with what a lookup is to return, and the
group keeps a value. -/
theorem Computes.loaded (computes : state.Computes name function) (named : key ≠ "")
    {outcome : Outcome} (answered : outcome.answer? = some (function key)) :
    (state.loaded key outcome).1.Computes name function ∧
      (state.loaded key outcome).2 = .returned (Source.answer function key) := by
  rw [GroupState.loaded, answered, Source.answer, if_neg named]
  cases computed : function key with
  | ok value => exact ⟨(computes.keep named computed).count .localLoad, rfl⟩
  | error text => exact ⟨computes.count .localError, rfl⟩

theorem Computes.load (computes : state.Computes name function) (named : key ≠ "") :
    (state.load key).1.Computes name function ∧
      (state.load key).2.2 = .returned (Source.answer function key) := by
  obtain ⟨outcome, replied, answered⟩ := Source.ofFunction_load function state.sourceCalls key
  have called : Computes name function { state with sourceCalls := state.sourceCalls + 1 } :=
    ⟨computes.name, computes.source, computes.formed, computes.kept, computes.asks⟩
  rw [GroupState.load, computes.source, replied]
  exact computes.source ▸ called.loaded named answered

/-- Whether the end of a fetch gives no other value than the function. -/
def IsTrue (function : String → Except String Octets) (key : String) (outcome : Outcome) : Prop :=
  ∀ value, outcome.result? = some (.ok value) → function key = .ok value

/-- When a fetch has ended that gives no other value, the pass ends with what a lookup is
to return, unless the fetch crashed. -/
theorem Computes.fetched (computes : state.Computes name function) (named : key ≠ "")
    {outcome : Outcome} (isTrue : IsTrue function key outcome) :
    (state.fetched key outcome).1.Computes name function ∧
      ((state.fetched key outcome).2.2 = .returned (Source.answer function key) ∨
        (state.fetched key outcome).2.2 = .crashed) := by
  rw [GroupState.fetched]
  split
  · rename_i value succeeds
    refine ⟨computes.count .peerLoad, .inl ?_⟩
    rw [Source.answer_of_ok named (isTrue value succeeds)]
  · exact ⟨((computes.count .peerError).load named).1, .inl ((computes.count .peerError).load named).2⟩
  · exact ⟨computes, .inr rfl⟩

/-- A client over the network knows at once only that a request cannot be sent. -/
theorem IsPlain.fails {peer : Peer} (plain : IsPlain peer) {group : String} {outcome : Outcome}
    (replied : peer.fetch group key = .now outcome) : outcome.fails := by
  obtain ⟨origin, _, rfl⟩ := plain
  dsimp only [Client.peer] at replied
  rw [Transport.online] at replied
  split at replied
  · rw [← Reply.now.inj replied]
    exact ⟨_, rfl⟩
  · cases replied

/-- An end without a value gives no other value. -/
theorem IsTrue.of_fails {outcome : Outcome} (fails : outcome.fails) :
    IsTrue function key outcome := by
  obtain ⟨failure, result⟩ := fails
  intro value succeeds
  rw [result] at succeeds
  cases succeeds

theorem Computes.pick (computes : state.Computes name function) (key : String) :
    (state.pick key).1.Computes name function := by
  rw [pick_frame]
  exact ⟨computes.name, computes.source, computes.formed, computes.kept, computes.asks⟩

/-- Where a pass of a group that asks plain peers may wait. -/
def Awaits (stage : Stage) : Prop :=
  ∃ peer, stage = .fetching peer ∧ IsPlain peer

theorem Computes.fetched_keeps (computes : state.Computes name function) (named : key ≠ "")
    {outcome : Outcome} (isTrue : IsTrue function key outcome) :
    (state.fetched key outcome).2.2.Keeps Awaits (· = Source.answer function key) := by
  rcases (computes.fetched named isTrue).2 with returned | crashed
  · rw [returned]
    exact rfl
  · rw [crashed]
    trivial

/-- A pass waits for a peer, or ends with what a lookup is to return. -/
theorem Computes.start (computes : state.Computes name function) (named : key ≠ "") :
    (state.start key).1.Computes name function ∧
      (state.start key).2.2.Keeps Awaits (· = Source.answer function key) := by
  have picks := computes.pick key
  have picked := (pick_eq state key).1
  rw [GroupState.start, picked]
  cases owner : state.owner? key with
  | none =>
      dsimp only
      rw [(picks.load named).2]
      exact ⟨(picks.load named).1, rfl⟩
  | some peer =>
      have plain := computes.asks key peer owner
      dsimp only
      cases replied : peer.fetch state.name key with
      | held => exact ⟨picks, peer, rfl, plain⟩
      | now outcome =>
          exact ⟨(picks.fetched named (IsTrue.of_fails (plain.fails replied))).1,
            picks.fetched_keeps named (IsTrue.of_fails (plain.fails replied))⟩

/-- A group that computes a function returns nothing else, as long as fetches give no
other values. -/
def promises (name : String) (function : String → Except String Octets) :
    Promises Group.loads where
  holds := Computes name function
  admits := (· ≠ "")
  stays _ := Awaits
  accepts := IsTrue function
  makes _ _ := True
  fits key result := result = Source.answer function key
  admitted state key plan _ := invariant.admitted state key plan
  greets _ key _ computes := computes.greet key
  starts _ _ _ computes named :=
    ⟨(computes.start named).1, fun _ _ => trivial, (computes.start named).2⟩
  resumes := by
    rintro state key _ _ outcome computes named ⟨peer, rfl, _⟩ isTrue
    exact ⟨(computes.fetched named isTrue).1, fun _ _ => trivial,
      computes.fetched_keeps named isTrue⟩
  shares _ computes := computes.count .sharedLoad

/-! ## What passes call -/

/-- Whether a call asks the source for no other key. -/
def IsOwn (key : String) (call : Call) : Prop :=
  ∀ asked, call = .load asked → asked = key

/-- Whether a pass that waits for a peer waits for one of these. -/
def WaitsFor (peers : Peer → Prop) (stage : Stage) : Prop :=
  ∀ peer, stage = .fetching peer → peers peer

/-- A call of the source is for the key of its pass, which waits for no peer then. -/
theorem calls_load (state : GroupState) (key : String) (peers : Peer → Prop) :
    (∀ call ∈ (state.load key).2.1, IsOwn key call) ∧
      (state.load key).2.2.Keeps (WaitsFor peers) fun _ => True := by
  obtain ⟨only, waits⟩ := load_calls state key
  refine ⟨fun call mem asked isLoad => ?_, ?_⟩
  · rw [only, isLoad, List.mem_singleton] at mem
    exact Call.load.inj mem
  · cases progress : (state.load key).2.2 with
    | blocked stage =>
        rw [waits stage progress]
        exact fun peer isFetch => nomatch isFetch
    | returned result => trivial
    | crashed => trivial

theorem calls_fetched (state : GroupState) (key : String) (outcome : Outcome)
    (peers : Peer → Prop) :
    (∀ call ∈ (state.fetched key outcome).2.1, IsOwn key call) ∧
      (state.fetched key outcome).2.2.Keeps (WaitsFor peers) fun _ => True := by
  unfold GroupState.fetched
  split
  · exact ⟨nofun, trivial⟩
  · exact calls_load _ key peers
  · exact ⟨nofun, trivial⟩

theorem calls_resume (state : GroupState) (key : String) (stage : Stage) (outcome : Outcome)
    (peers : Peer → Prop) :
    (∀ call ∈ (state.resume key stage outcome).2.1, IsOwn key call) ∧
      (state.resume key stage outcome).2.2.Keeps (WaitsFor peers) fun _ => True := by
  cases stage with
  | fetching peer => exact calls_fetched state key outcome peers
  | loading =>
      refine ⟨nofun, ?_⟩
      rw [GroupState.resume]
      dsimp only
      cases progress : (state.loaded key outcome).2 with
      | blocked stage =>
          exact absurd (Progress.ending?_eq_none.mpr ⟨stage, progress⟩)
            (loaded_ends state key outcome)
      | returned result => trivial
      | crashed => trivial

/-- A pass asks the owner of its key, and the source for no other key. -/
theorem calls_start (state : GroupState) (key : String) {peers : Peer → Prop}
    (owners : ∀ peer, state.owner? key = some peer → peers peer) :
    (∀ call ∈ (state.start key).2.1, IsOwn key call) ∧
      (state.start key).2.2.Keeps (WaitsFor peers) fun _ => True := by
  have picked := (pick_eq state key).1
  rw [GroupState.start, picked]
  cases owner : state.owner? key with
  | none => exact calls_load _ key peers
  | some peer =>
      dsimp only
      cases peer.fetch state.name key with
      | held =>
          refine ⟨fun call mem asked isLoad => ?_, fun other isFetch => ?_⟩
          · rw [isLoad] at mem
            cases List.mem_singleton.mp mem
          · rw [← Stage.fetching.inj isFetch]
            exact owners peer owner
      | now outcome =>
          obtain ⟨own, keeps⟩ := calls_fetched (state.pick key).1 key outcome peers
          refine ⟨fun call mem => ?_, keeps⟩
          rcases List.mem_cons.mp mem with rfl | later
          · intro asked isLoad
            cases isLoad
          · exact own call later

/-- Lookups do not change what makes a group; their passes wait for no peer but for plain
ones, if there are no others, and call the source for no other key. -/
def routing (nature : String × Source × Option Picker) : Promises Group.loads where
  holds state := state.nature = nature ∧ ∀ key peer, state.owner? key = some peer → IsPlain peer
  admits := (· ≠ "")
  stays _ := WaitsFor IsPlain
  accepts _ _ := True
  makes := IsOwn
  fits _ _ := True
  admitted state key plan _ := invariant.admitted state key plan
  greets state key _ now := by
    have same := nature_greet state key
    exact ⟨⟨same.trans now.1, owner?_of_nature same ▸ now.2⟩, fun _ _ => trivial⟩
  starts state key _ now _ := by
    have same := nature_start state key
    exact ⟨⟨same.trans now.1, owner?_of_nature same ▸ now.2⟩, calls_start state key (now.2 key)⟩
  resumes state key _ stage outcome now _ _ _ := by
    have same := nature_resume state key stage outcome
    exact ⟨⟨same.trans now.1, owner?_of_nature same ▸ now.2⟩,
      calls_resume state key stage outcome IsPlain⟩
  shares _ now := now

end GroupState

/-! ## Steps -/

/-- The events of a group that belong to lookups of a key: somebody looks it up, or the
fetch for it ends in a way that is accepted. -/
inductive Group.Asks (key : String) (accepted : Outcome → Prop) : Group.Event → Prop where
  | lookup : Asks key accepted (.lookup key)
  | finish (outcome : Outcome) (accepts : accepted outcome) :
      Asks key accepted (.finish key outcome)

theorem Group.Asks.mono {key : String} {accepted other : Outcome → Prop} {event : Group.Event}
    (asks : Asks key accepted event) (weaker : ∀ outcome, accepted outcome → other outcome) :
    Asks key other event := by
  cases asks with
  | lookup => exact .lookup
  | finish outcome accepts => exact .finish outcome (weaker outcome accepts)

/-- Such an event keeps the promises of a group. -/
theorem Promises.Rests.group_step {promises : Promises Group.loads} {group : Group}
    (rests : promises.Rests group) {key : String} {event : Group.Event}
    (asks : Group.Asks key (promises.accepts key) event) :
    promises.Rests (group.step event).1 ∧
      ∀ notice ∈ (group.step event).2, promises.Allows key notice := by
  cases asks with
  | lookup => exact rests.step ⟨rfl, nofun⟩
  | finish outcome accepts =>
      refine rests.step ⟨rfl, fun other end' isFinish => ?_⟩
      obtain ⟨rfl, rfl⟩ := Flight.Event.finish.inj isFinish
      exact accepts

/-- Lookups keep what makes a group at all times. -/
theorem GroupState.nature_invariant (nature : String × Source × Option Picker) :
    WorldInvariant Group.loads Promises.still (·.nature = nature) fun _ => True where
  admitted _ _ _ _ := trivial
  acts _ _ now := now
  greets state key _ now := (nature_greet state key).trans now
  starts state key _ now _ := (nature_start state key).trans now
  resumes state key _ stage outcome now _ := (nature_resume state key stage outcome).trans now
  shares _ now := now

/-- A group that has a picker stays what it is, whatever happens: it refuses every other picker. -/
theorem Group.nature_step {group : Group} {picker : Picker}
    (asks : group.world.picker = some picker) (event : Group.Event) :
    (group.step event).1.world.nature = group.world.nature := by
  have flies : ∀ event : Flight.Event Unit,
      (Flight.step Group.loads group event).1.world.nature = group.world.nature :=
    (GroupState.nature_invariant group.world.nature).step rfl
  cases event with
  | lookup key => exact flies (.start key ())
  | finish key outcome => exact flies (.finish key outcome)
  | cancelLeader key => exact flies (.cancelLeader key)
  | cancelWaiter key => exact flies (.cancelWaiter key)
  | register other =>
      rw [Group.step, Group.register, asks]
      rfl

end RingCache
