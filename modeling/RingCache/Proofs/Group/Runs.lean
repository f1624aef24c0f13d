import RingCache.Group
import RingCache.Proofs.Flight.Leaders

/-!
# Runs of groups

A run of a group is a run of its flight in which others change the picker. They
may do so at any time and as they like, so that a peer need not answer twice in
the same way. What `Group.run` reaches and shows, by events that settle one after
the other, is reached and shown by such a run (`Group.exists_run`).
-/

namespace RingCache

/-- The same group with another picker, or none. -/
def GroupState.equip (state : GroupState) (picker : Option Picker) : GroupState :=
  { state with picker := picker }

/-- A run of a group: lookups, and changes of the picker by others. -/
abbrev GroupRun := Run Group.loads GroupState.equip

/-- A run of a group that has seen no lookup. -/
def GroupRun.create (name : String) (budget : Nat) (source : Source)
    (happening : Nat → Happening (Option Picker) Unit) : GroupRun :=
  ⟨(Group.create name budget source).world, happening⟩

namespace Group

variable {group : Group}

/-- The stage of a key is that of the lookup that makes its pass. -/
theorem stage?_eq_some (sound : group.Sound) {key : String} {stage : Stage} :
    group.stage? key = some stage ↔
      ∃ caller ∈ group.callers, caller.key = key ∧
        ∃ ticket, caller.phase = .leading ticket stage := by
  constructor
  · intro isStage
    rw [stage?] at isStage
    cases found : group.leader? key with
    | none =>
        rw [found] at isStage
        cases isStage
    | some leader =>
        obtain ⟨present, sameKey, _⟩ := Flight.Sound.leader?_eq_some found
        rw [found, Option.map_some] at isStage
        split at isStage
        · rename_i ticket _ phase
          obtain rfl := Option.some.inj isStage
          exact ⟨leader, present, sameKey, ticket, Option.some.inj phase⟩
        · cases isStage
  · rintro ⟨leader, present, rfl, ticket, phase⟩
    rw [stage?, sound.leader?_of_leads present (by rw [phase]; rfl), Option.map_some, phase]

/-- An event and what lookups do about it are happenings one after the other. -/
theorem step_eq (sound : group.Sound) (event : Event) :
    ∃ happenings : List (Happening (Option Picker) Unit),
      group.step event = group.happenAll loads GroupState.equip happenings := by
  cases event with
  | lookup key => exact ⟨_, sound.step_eq loads GroupState.equip (.start key ())⟩
  | finish key outcome => exact ⟨_, sound.step_eq loads GroupState.equip (.finish key outcome)⟩
  | cancelLeader key => exact ⟨_, sound.step_eq loads GroupState.equip (.cancelLeader key)⟩
  | cancelWaiter key => exact ⟨_, sound.step_eq loads GroupState.equip (.cancelWaiter key)⟩
  | register picker =>
      cases registered : group.world.picker with
      | some other =>
          refine ⟨[], ?_⟩
          rw [step, register, registered]
          rfl
      | none =>
          refine ⟨[.act (some picker)], ?_⟩
          rw [step, register, registered]
          rfl

/-- Events one after the other are happenings one after the other. -/
theorem run_eq (sound : group.Sound) (events : List Event) :
    ∃ happenings : List (Happening (Option Picker) Unit),
      group.run events = group.happenAll loads GroupState.equip happenings := by
  induction events generalizing group with
  | nil => exact ⟨[], rfl⟩
  | cons event rest inductionHypothesis =>
      obtain ⟨first, stepped⟩ := step_eq sound event
      have nextSound : (group.step event).1.Sound := stepped ▸ sound.happenAll first
      obtain ⟨others, ran⟩ := inductionHypothesis nextSound
      refine ⟨first ++ others, ?_⟩
      rw [Flight.happenAll_append, ← stepped, Group.run, ran]

/-- Whatever is reached and seen by events on a group that has seen no lookup is
reached and seen by a run. -/
theorem exists_run (name : String) (budget : Nat) (source : Source) (events : List Event) :
    ∃ happening index,
      (GroupRun.create name budget source happening).state index =
          ((create name budget source).run events).1 ∧
        (List.range index).flatMap (GroupRun.create name budget source happening).notices =
          ((create name budget source).run events).2 := by
  have sound : (create name budget source).Sound := .empty _
  obtain ⟨happenings, ran⟩ := run_eq sound events
  obtain ⟨⟨world, happening⟩, index, rfl, reached, seen⟩ :=
    Run.exists_happenAll loads GroupState.equip (create name budget source).world happenings
  exact ⟨happening, index, reached.trans (congrArg Prod.fst ran).symm,
    seen.trans (congrArg Prod.snd ran).symm⟩

/-! ## Groups that a run reaches -/

/-- Whether happenings have made a group of one that had seen no lookup. -/
def Reached (group : Group) : Prop :=
  ∃ name budget source, ∃ happenings : List (Happening (Option Picker) Unit),
    group = ((create name budget source).happenAll loads GroupState.equip happenings).1

theorem Reached.create (name : String) (budget : Nat) (source : Source) :
    (create name budget source).Reached :=
  ⟨name, budget, source, [], rfl⟩

theorem Reached.sound (reached : group.Reached) : group.Sound := by
  obtain ⟨name, budget, source, happenings, rfl⟩ := reached
  exact Flight.Sound.happenAll (.empty _) happenings

/-- What happens next to such a group makes another one, and is seen in a run. -/
theorem Reached.happenAll (reached : group.Reached)
    (happenings : List (Happening (Option Picker) Unit)) :
    let happened := group.happenAll loads GroupState.equip happenings
    Reached happened.1 ∧ ∀ notice ∈ happened.2, ∃ run : GroupRun, ∃ index,
      notice ∈ run.notices index := by
  intro happened
  obtain ⟨name, budget, source, before, rfl⟩ := reached
  have whole : (Group.create name budget source).happenAll loads GroupState.equip
      (before ++ happenings) = _ := Flight.happenAll_append before happenings
  refine ⟨⟨name, budget, source, before ++ happenings, by rw [whole]⟩, fun notice noticed => ?_⟩
  obtain ⟨run, last, _, _, seen⟩ :=
    Run.exists_happenAll loads GroupState.equip (Group.create name budget source).world
      (before ++ happenings)
  have mem : notice ∈ (List.range last).flatMap run.notices := by
    rw [seen]
    exact whole ▸ List.mem_append_right _ noticed
  obtain ⟨index, _, isNotice⟩ := List.mem_flatMap.mp mem
  exact ⟨run, index, isNotice⟩

/-- So does an event. -/
theorem Reached.step (reached : group.Reached) (event : Event) :
    Reached (group.step event).1 ∧ ∀ notice ∈ (group.step event).2, ∃ run : GroupRun, ∃ index,
      notice ∈ run.notices index := by
  obtain ⟨happenings, stepped⟩ := step_eq reached.sound event
  rw [stepped]
  exact reached.happenAll happenings

/-- And so does a change of the picker. -/
theorem Reached.equip (reached : group.Reached) (picker : Option Picker) :
    Reached { group with world := group.world.equip picker } :=
  (reached.happenAll [.act picker]).1

end Group

end RingCache
