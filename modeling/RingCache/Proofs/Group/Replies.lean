import RingCache.Proofs.Flight.Gatherings
import RingCache.Proofs.Group.Failures
import RingCache.Proofs.Group.Functions

/-!
# What lookups reply

Between two events of a group, whatever its lookups do, every result that the next one brings is
one that a lookup of its key may return, and everybody who returns is of this key
(`GroupState.returning`). Some lookups return in the step in which they come: what they find is
kept, or they start a pass that waits for nobody (`Group.Gives`). Such a step changes what the
lookup acts on, and leaves everybody else who is there alone (`Group.Gives.step`).
-/

namespace RingCache

/-! ## What may be returned -/

namespace GroupState

variable {state : GroupState} {key : String}

/-- Whether a part of a pass returns what a lookup of its key may return, if it returns. -/
def Replies (key : String) (progress : Progress Stage Result) : Prop :=
  progress.Keeps (fun _ => True) (Group.Returns key)

theorem replies_loaded (state : GroupState) (named : key ≠ "") (outcome : Outcome) :
    Replies key (state.loaded key outcome).2 := by
  rw [loaded]
  split
  · exact .value named _
  · exact .failed named _
  · trivial

theorem replies_load (state : GroupState) (named : key ≠ "") :
    Replies key (state.load key).2.2 := by
  rw [load]
  dsimp only
  split
  · trivial
  · exact replies_loaded _ named _

theorem replies_fetched (state : GroupState) (named : key ≠ "") (outcome : Outcome) :
    Replies key (state.fetched key outcome).2.2 := by
  rw [fetched]
  split
  · exact .value named _
  · exact replies_load _ named
  · trivial

theorem replies_start (state : GroupState) (named : key ≠ "") :
    Replies key (state.start key).2.2 := by
  rw [start]
  dsimp only
  split
  · exact replies_load _ named
  · split
    · trivial
    · exact replies_fetched _ named _

theorem replies_resume (state : GroupState) (named : key ≠ "") (stage : Stage)
    (outcome : Outcome) : Replies key (state.resume key stage outcome).2.2 := by
  cases stage with
  | fetching peer => exact replies_fetched state named outcome
  | loading => exact replies_loaded state named outcome

theorem returns_of_greeted {result : Result} (answered : (state.greet key).2 = some result) :
    Group.Returns key result := by
  rcases greet_of_answered answered with ⟨unnamed, rfl, _⟩ | ⟨named, value, cache, _, rfl, _⟩
  · exact .unnamed (by simpa using unnamed)
  · exact .value (by simpa using named) value

/-- Lookups do not change what makes a group, and return what they may. -/
def returning (nature : String × Source × Option Picker) : Promises Group.loads where
  holds state := state.nature = nature
  admits := (· ≠ "")
  stays _ _ := True
  accepts _ _ := True
  makes _ _ := True
  fits := Group.Returns
  admitted state key plan _ := invariant.admitted state key plan
  greets state key _ now := ⟨(nature_greet state key).trans now, fun _ => returns_of_greeted⟩
  starts state key _ now named :=
    ⟨(nature_start state key).trans now, fun _ _ => trivial, replies_start state named⟩
  resumes state key _ stage outcome now named _ _ :=
    ⟨(nature_resume state key stage outcome).trans now, fun _ _ => trivial,
      replies_resume state named stage outcome⟩
  shares _ now := now

end GroupState

namespace Group

/-! ## Between two events -/

/-- Whether a group is between two events: nobody has been told anything and not gone on, and
whoever leads a pass has a key. -/
def Settled (group : Group) : Prop :=
  (GroupState.returning group.world.nature).Rests group

variable {group : Group} {key : String} {result : Result}

theorem settled_of_rests {nature : String × Source × Option Picker}
    (rests : (GroupState.returning nature).Rests group) : group.Settled := by
  obtain rfl := rests.world
  exact rests

theorem settled_create (name : String) (budget : Nat) (source : Source) :
    (create name budget source).Settled :=
  Promises.rests_of_nobody _ (.empty _) rfl rfl

/-- Who names the owners of keys makes no difference. -/
theorem Settled.equip (settled : group.Settled) (picker : Option Picker) :
    Settled { group with world := group.world.equip picker } where
  sound := { settled.sound with }
  settled := settled.settled
  world := rfl
  admitted := settled.admitted
  leads := settled.leads

/-- What happens to a group ends with such a state again. -/
theorem Settled.step (settled : group.Settled) (event : Event) : (group.step event).1.Settled := by
  have flies (happens : Flight.Event Unit) : Settled (Flight.step loads group happens).1 :=
    settled_of_rests (Promises.Rests.step settled ⟨rfl, fun _ _ _ => trivial⟩).1
  cases event with
  | lookup key => exact flies (.start key ())
  | finish key outcome => exact flies (.finish key outcome)
  | cancelLeader key => exact flies (.cancelLeader key)
  | cancelWaiter key => exact flies (.cancelWaiter key)
  | register picker =>
      rw [Group.step, register]
      cases group.world.picker with
      | some other => exact settled
      | none => exact settled.equip (some picker)

/-- So do all events of a run. -/
theorem Settled.run (settled : group.Settled) (events : List Event) :
    (group.run events).1.Settled := by
  induction events generalizing group with
  | nil => exact settled
  | cons event rest inductionHypothesis => exact inductionHypothesis (settled.step event)

/-- Whoever returns when a key is looked up, or when its fetch ends, has looked this key up, and
nothing else becomes of what makes the group. -/
theorem Settled.returns_step (settled : group.Settled) {event : Event}
    (asks : Asks key (fun _ => True) event) :
    (group.step event).1.world.nature = group.world.nature ∧
      ∀ id other result, .ended id other (.returned result) ∈ (group.step event).2 →
        other = key ∧ Returns key result := by
  obtain ⟨rests, allows⟩ := Promises.Rests.group_step settled asks
  refine ⟨rests.world, fun id other result ended => ?_⟩
  obtain ⟨rfl, returns⟩ := allows _ ended
  exact ⟨rfl, returns⟩

/-! ## What is returned at once -/

/-- What a lookup of a key gives in the step in which it comes: what is kept, or what a pass of the
key returns that is not in flight yet and waits for nobody. -/
inductive Gives (group : Group) (key : String) : Result → Prop where
  | kept {result : Result} (answered : (group.world.greet key).2 = some result) :
      Gives group key result
  | passed {result : Result} (missed : (group.world.greet key).2 = none)
      (free : group.records.lookup key = none)
      (returned : ((group.world.greet key).1.start key).2.2 = .returned result) :
      Gives group key result

/-- A lookup that returns in the step in which it comes is the only one that does, and whoever else
is there stays so. -/
theorem Gives.step (gives : group.Gives key result) (settled : group.Settled) :
    ∃ calls : List Call, (group.step (.lookup key)).2 = calls.map (.called group.nextCaller) ++
        [.ended group.nextCaller key (.returned result)] ∧
      (group.step (.lookup key)).1.callers = group.callers := by
  cases gives with
  | kept answered =>
      have stepped : group.step (.lookup key) = _ :=
        Flight.step_greeted settled.settled (Prod.ext rfl answered)
      rw [stepped]
      exact ⟨[], rfl, rfl⟩
  | passed missed free returned =>
      have stepped : group.step (.lookup key) = _ :=
        Flight.step_loaded settled.sound settled.settled free (Prod.ext rfl missed)
          (Prod.ext rfl (Prod.ext rfl returned))
      rw [stepped]
      exact ⟨_, rfl, rfl⟩

end Group

/-! ## Who returns at once -/

namespace GroupState

variable {state : GroupState} {key : String} {outcome : Outcome}
  {answer : Except String Octets}

/-- Whether a pass of a key waits for nobody: the owner of the key, if there is one, and the source
reply at once, and do not crash. -/
structure Prompt (state : GroupState) (key : String) : Prop where
  /-- The owner of the key replies. -/
  owner : ∀ peer, state.owner? key = some peer → ∃ outcome, ∃ result : Result,
    peer.fetch state.name key = .now outcome ∧ outcome.result? = some result
  /-- So does the source. -/
  source : ∃ outcome answer,
    state.source.load state.sourceCalls key = .now outcome ∧ outcome.answer? = some answer

/-- A call of the source that gives something ends the pass. -/
theorem returned_load (replies : state.source.load state.sourceCalls key = .now outcome)
    (answers : outcome.answer? = some answer) :
    ∃ result, (state.load key).2.2 = .returned result := by
  rw [load, replies]
  dsimp only
  rw [loaded, answers]
  cases answer with
  | ok value => exact ⟨_, rfl⟩
  | error text => exact ⟨_, rfl⟩

/-- So does a fetch that gives something, if the source does. -/
theorem returned_fetched (replies : state.source.load state.sourceCalls key = .now outcome)
    (answers : outcome.answer? = some answer) {fetched : Outcome} {result : Result}
    (ended : fetched.result? = some result) :
    ∃ result, (state.fetched key fetched).2.2 = .returned result := by
  rw [GroupState.fetched, ended]
  cases result with
  | ok value => exact ⟨_, rfl⟩
  | error failure =>
      have counted : (state.count .peerError).source.load (state.count .peerError).sourceCalls key =
          .now outcome := replies
      exact returned_load counted answers

/-- A pass that waits for nobody returns. -/
theorem Prompt.returned (prompt : state.Prompt key) :
    ∃ result, (state.start key).2.2 = .returned result := by
  obtain ⟨outcome, answer, replies, answers⟩ := prompt.source
  have picked := (pick_eq state key).1
  have asked :
      (state.pick key).1.source.load (state.pick key).1.sourceCalls key = .now outcome := by
    rw [pick_frame]
    exact replies
  rw [start, picked]
  generalize (state.pick key).1 = next at asked
  cases owner : state.owner? key with
  | none => exact returned_load asked answers
  | some peer =>
      obtain ⟨fetched, result, fetches, ended⟩ := prompt.owner peer owner
      dsimp only
      rw [fetches]
      exact returned_fetched asked answers ended

end GroupState

/-- If no pass of a key is in flight, a lookup that waits for nobody returns in the step in which it
comes. -/
theorem Group.exists_gives {group : Group} {key : String} (prompt : group.world.Prompt key)
    (free : group.records.lookup key = none) : ∃ result, group.Gives key result := by
  cases answered : (group.world.greet key).2 with
  | some result => exact ⟨result, .kept answered⟩
  | none =>
      have prompted : (group.world.greet key).1.Prompt key := by
        rw [(GroupState.greet_of_missed answered).2]
        exact ⟨prompt.owner, prompt.source⟩
      obtain ⟨result, returned⟩ := prompted.returned
      exact ⟨result, .passed answered free returned⟩

end RingCache
