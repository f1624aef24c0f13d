import RingCache.Proofs.Group.Budgets
import RingCache.Proofs.Group.Replies

/-!
# Groups on their own

A group that has no picker asks nobody else. If its source follows a function, at once or after a
wait, then whatever its lookups do and whoever waits for whom, everybody who returns has the value
of the function for the own key, or the failure that the function gives (`Group.Solitary.step`). A
source that does not wait lets a lookup return in the step in which it comes
(`Group.Solitary.exists_gives`).
-/

namespace RingCache

/-! ## What its lookups return -/

namespace GroupState

variable {state next : GroupState} {key : String} {function : String → Except String Octets}
  {outcome : Outcome}

/-- Whether a call of the source ends with what a function gives, if it returns. -/
def IsAnswer (function : String → Except String Octets) (key : String) (outcome : Outcome) : Prop :=
  ∀ answer, outcome.answer? = some answer → answer = function key

/-- Whether a group asks nobody else, its source follows a function, and it keeps only values of
it. -/
structure Alone (function : String → Except String Octets) (state : GroupState) : Prop where
  unasked : state.picker = none
  follows : state.source.Follows function
  truthful : state.Truthful function

/-- A group is still alone if it is the same, and keeps values of the function. -/
theorem Alone.of_nature (alone : state.Alone function) (same : next.nature = state.nature)
    (truthful : next.Truthful function) : next.Alone function where
  unasked := (picker_of_nature same).trans alone.unasked
  follows := source_of_nature same ▸ alone.follows
  truthful := truthful

/-- When the source has answered, the pass ends with what a lookup is to return. -/
theorem Truthful.loaded (truthful : state.Truthful function) (named : key ≠ "")
    (isAnswer : IsAnswer function key outcome) :
    (state.loaded key outcome).1.Truthful function ∧
      (state.loaded key outcome).2.Keeps (· = .loading) (· = Source.answer function key) := by
  rw [GroupState.loaded]
  cases answered : outcome.answer? with
  | none => exact ⟨truthful, trivial⟩
  | some answer =>
      have computed : answer = function key := isAnswer answer answered
      have returns : Source.answer function key = answer.mapError .loader := by
        rw [Source.answer, if_neg named, computed]
      rw [returns]
      cases answer with
      | ok value =>
          have kept := truthful.keep named computed.symm
          exact ⟨⟨kept.formed, kept.kept⟩, rfl⟩
      | error text => exact ⟨⟨truthful.formed, truthful.kept⟩, rfl⟩

/-- Its pass calls the source and waits for nobody else. -/
theorem Alone.load (alone : state.Alone function) (named : key ≠ "") :
    (state.load key).1.Truthful function ∧
      (state.load key).2.2.Keeps (· = .loading) (· = Source.answer function key) := by
  have called : Truthful function { state with sourceCalls := state.sourceCalls + 1 } :=
    ⟨alone.truthful.formed, alone.truthful.kept⟩
  rw [GroupState.load]
  rcases alone.follows state.sourceCalls key with held | ⟨outcome, replies, answered⟩
  · rw [held]
    exact ⟨called, rfl⟩
  · rw [replies]
    refine called.loaded named fun answer isAnswer => ?_
    exact Option.some.inj (isAnswer.symm.trans answered)

/-- A pass of such a group starts with a call of the source. -/
theorem Alone.start_eq (alone : state.Alone function) (key : String) :
    state.start key = state.load key := by
  rw [GroupState.start, pick, alone.unasked]

/-- Everybody who returns has what a lookup of the own key is to return. -/
def alone (function : String → Except String Octets) : Promises Group.loads where
  holds := Alone function
  admits := (· ≠ "")
  stays _ := (· = .loading)
  accepts := IsAnswer function
  makes _ _ := True
  fits key := (· = Source.answer function key)
  admitted state key plan _ := invariant.admitted state key plan
  greets state key _ now := by
    obtain ⟨truthful, answers⟩ := now.truthful.greet key
    exact ⟨now.of_nature (nature_greet state key) truthful, answers⟩
  starts state key _ now named := by
    obtain ⟨truthful, keeps⟩ := now.load named
    rw [← now.start_eq key] at truthful keeps
    exact ⟨now.of_nature (nature_start state key) truthful, fun _ _ => trivial, keeps⟩
  resumes := by
    rintro state key _ stage outcome now named rfl isAnswer
    obtain ⟨truthful, keeps⟩ := now.truthful.loaded named isAnswer
    exact ⟨now.of_nature (nature_resume state key .loading outcome) truthful, fun _ _ => trivial,
      keeps⟩
  shares _ now := ⟨now.unasked, now.follows, now.truthful.formed, now.truthful.kept⟩

end GroupState

namespace Group

variable {group : Group} {key : String} {function : String → Except String Octets}

/-! ## Between two events -/

/-- Whether a group is on its own, between two events. -/
def Solitary (function : String → Except String Octets) (group : Group) : Prop :=
  (GroupState.alone function).Rests group

theorem solitary_create {source : Source} (follows : source.Follows function) (name : String)
    (budget : Nat) : (create name budget source).Solitary function :=
  Promises.rests_of_nobody _ (.empty _) rfl ⟨rfl, follows, ⟨nofun, nofun⟩⟩

theorem Solitary.settled (solitary : group.Solitary function) : group.Settled where
  sound := solitary.sound
  settled := Promises.Rests.settled solitary
  world := rfl
  admitted := solitary.admitted
  leads _ _ _ _ _ := trivial

/-- Whether an event makes no picker known, and ends a call of the source only with what a function
gives. -/
def Event.Heeds (function : String → Except String Octets) : Event → Prop
  | .finish key outcome => GroupState.IsAnswer function key outcome
  | .register _ => False
  | _ => True

/-- Such an event leaves the group on its own, and whoever returns has the value of the function for
the own key. -/
theorem Solitary.step (solitary : group.Solitary function) {event : Event}
    (heeds : event.Heeds function) :
    (group.step event).1.Solitary function ∧
      ∀ id other result, .ended id other (.returned result) ∈ (group.step event).2 →
        result = Source.answer function other := by
  have flies (happens : Flight.Event Unit)
      (concerns : (GroupState.alone function).Concerns happens.key happens) :
      let stepped := Flight.step loads group happens
      Solitary function stepped.1 ∧
        ∀ id other result, .ended id other (.returned result) ∈ stepped.2 →
          result = Source.answer function other := by
    obtain ⟨rests, allows⟩ := Promises.Rests.step solitary concerns
    refine ⟨rests, fun id other result ended => ?_⟩
    obtain ⟨rfl, fits⟩ := allows _ ended
    exact fits
  cases event with
  | lookup key => exact flies (.start key ()) ⟨rfl, nofun⟩
  | finish key outcome =>
      refine flies (.finish key outcome) ⟨rfl, fun other given isFinish => ?_⟩
      obtain ⟨rfl, rfl⟩ := Flight.Event.finish.inj isFinish
      exact heeds
  | cancelLeader key => exact flies (.cancelLeader key) ⟨rfl, nofun⟩
  | cancelWaiter key => exact flies (.cancelWaiter key) ⟨rfl, nofun⟩
  | register picker => exact heeds.elim

/-- A new pool for the owners of keys is none for such a group. -/
theorem Solitary.repick_eq (solitary : group.Solitary function) (pool : Pool) :
    Node.repick pool group = group := by
  have unasked := solitary.world.unasked
  rw [Node.repick, unasked, Option.map_none, ← unasked]

/-- Nobody waits for a peer. -/
theorem Solitary.stage?_ne (solitary : group.Solitary function) (key : String) (peer : Peer) :
    group.stage? key ≠ some (.fetching peer) := by
  intro fetching
  obtain ⟨leader, present, _, ticket, phase⟩ := (stage?_eq_some solitary.sound).mp fetching
  cases solitary.leads leader present ticket _ phase

/-! ## Sources that do not wait -/

/-- Whether nobody is in a group, and its source never lets a call wait. -/
structure Ready (group : Group) : Prop where
  nobody : group.callers = []
  replies : ∀ calls key, group.world.source.load calls key ≠ .held

/-- Then a lookup returns in the step in which it comes. -/
theorem Solitary.exists_gives (solitary : group.Solitary function) (ready : group.Ready)
    (key : String) : ∃ result, group.Gives key result := by
  have free : group.records.lookup key = none := by
    rw [solitary.sound.records_of_nobody ready.nobody]
    rfl
  refine Group.exists_gives ⟨fun peer owns => ?_, ?_⟩ free
  · rw [GroupState.owner?, solitary.world.unasked] at owns
    cases owns
  · obtain ⟨outcome, replied, answered⟩ :=
      (solitary.world.follows group.world.sourceCalls key).resolve_left (ready.replies _ key)
    exact ⟨outcome, function key, replied, answered⟩

/-- And another one may come. -/
theorem Solitary.ready_step (solitary : group.Solitary function) (ready : group.Ready)
    (key : String) : (group.step (.lookup key)).1.Ready := by
  obtain ⟨result, gives⟩ := solitary.exists_gives ready key
  obtain ⟨_, _, callers⟩ := gives.step solitary.settled
  have same := (solitary.settled.returns_step (.lookup : Asks key _ (.lookup key))).1
  exact ⟨callers.trans ready.nobody, GroupState.source_of_nature same ▸ ready.replies⟩

end Group

end RingCache
