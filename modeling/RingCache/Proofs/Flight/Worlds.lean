import RingCache.Proofs.Flight.Leaders

/-!
# The shared world

A world changes only by what `Loads` says of it and by acts (`Effect.world`). So
what each of these keeps, for the keys that callers get past their greeting
with, holds of the world at all times (`WorldInvariant.always`).
-/

namespace RingCache

variable {ω κ σ γ ρ α : Type}

/-- How the world changes in a happening. -/
inductive Flight.Turn (loads : Loads ω κ σ γ ρ) (act : ω → α → ω) (flight : Flight ω κ σ ρ)
    (happening : Happening α κ) : ω → Prop where
  /-- Not at all. -/
  | rests : Turn loads act flight happening flight.world
  /-- An act changes it. -/
  | acted (change : α) (isAct : happening = .act change) :
      Turn loads act flight happening (act flight.world change)
  /-- A new caller is greeted, and starts no load. -/
  | greeted (key : String) (plan : κ) (isStart : happening = .event (.start key plan)) :
      Turn loads act flight happening (loads.greet flight.world key plan).1
  /-- A load starts. -/
  | started (id : Nat) (key : String) (plan : κ) (base : Flight ω κ σ ρ)
      (entrant : Entrant loads flight happening id key plan base)
      (opened : flight.Opens loads happening id key) :
      Turn loads act flight happening (loads.start base.world key plan).1
  /-- The call that a load waits for ends. -/
  | resumed (leader : Caller κ σ ρ) (present : leader ∈ flight.callers) (ticket : Nat) (stage : σ)
      (leads : leader.phase = .leading ticket stage) (outcome : Outcome)
      (finished : happening = .event (.finish leader.key outcome)) :
      Turn loads act flight happening
        (loads.resume flight.world leader.key leader.plan stage outcome).1
  /-- A caller receives the result of another's load. -/
  | shared (caller : Caller κ σ ρ) (present : caller ∈ flight.callers) (result : ρ)
      (told : caller.phase = .told (some result)) :
      Turn loads act flight happening (loads.share flight.world)

variable {loads : Loads ω κ σ γ ρ} {act : ω → α → ω} {flight next : Flight ω κ σ ρ}
  {happening : Happening α κ} {notices : List (Notice γ ρ)}

/-- Whatever happens, the world turns in one of these ways. -/
theorem Flight.Effect.world (effect : Flight.Effect loads act flight happening next notices) :
    flight.Turn loads act happening next.world := by
  cases effect with
  | idle happening moot => exact .rests
  | acted change => exact .acted change rfl
  | answered key plan result greeted => exact .greeted key plan rfl
  | joined entrant ticket found =>
      cases entrant with
      | fresh _ _ missed => exact .greeted _ _ rfl
      | woken caller present told => exact .rests
  | opened entrant free world calls stage started =>
      have turn : flight.Turn loads act happening _ :=
        .started _ _ _ _ entrant (entrant.opens free)
      rw [started] at turn
      exact turn
  | passed entrant free world calls progress ending started ends =>
      have turn : flight.Turn loads act happening _ :=
        .started _ _ _ _ entrant (entrant.opens free)
      rw [started] at turn
      exact turn
  | advanced leader present ticket stage leads outcome world calls later resumed =>
      have turn : flight.Turn loads act _ _ :=
        .resumed leader present ticket stage leads outcome rfl
      rw [resumed] at turn
      exact turn
  | concluded leader present ticket stage leads outcome world calls progress ending resumed ends =>
      have turn : flight.Turn loads act _ _ :=
        .resumed leader present ticket stage leads outcome rfl
      rw [resumed] at turn
      exact turn
  | abandoned leader present ticket stage leads => exact .rests
  | shared caller present result told => exact .shared caller present result told
  | withdrawn happening caller present follows cancelled => exact .rests

/-- How far a load has come is nothing that the world shows. -/
@[simp] theorem Flight.world_land (flight : Flight ω κ σ ρ) (id : Nat) (key : String) (plan : κ)
    (ticket : Nat) (progress : Progress σ ρ) :
    (flight.land id key plan ticket progress : Flight ω κ σ ρ × List (Notice γ ρ)).1.world =
      flight.world := by
  cases progress <;> rfl

/-- A property of worlds that everything keeps which callers and others do, for
the keys that pass the greeting. -/
structure WorldInvariant (loads : Loads ω κ σ γ ρ) (act : ω → α → ω) (holds : ω → Prop)
    (admits : String → Prop) : Prop where
  /-- A caller that is not answered at once asks for such a key. -/
  admitted : ∀ world key plan, (loads.greet world key plan).2 = none → admits key
  acts : ∀ world change, holds world → holds (act world change)
  greets : ∀ world key plan, holds world → holds (loads.greet world key plan).1
  starts : ∀ world key plan, holds world → admits key → holds (loads.start world key plan).1
  resumes : ∀ world key plan stage outcome, holds world → admits key →
    holds (loads.resume world key plan stage outcome).1
  shares : ∀ world, holds world → holds (loads.share world)

namespace WorldInvariant

variable {holds : ω → Prop} {admits : String → Prop}

/-- One happening keeps the property, and admits no other keys. -/
theorem happens (invariant : WorldInvariant loads act holds admits)
    (effect : Flight.Effect loads act flight happening next notices)
    (now : holds flight.world) (admitted : ∀ caller ∈ flight.callers, admits caller.key) :
    holds next.world ∧ ∀ caller ∈ next.callers, admits caller.key := by
  have entered : ∀ {id key plan base},
      Flight.Entrant loads flight happening id key plan base → holds base.world ∧ admits key := by
    intro id key plan base entrant
    cases entrant with
    | fresh key plan missed =>
        exact ⟨invariant.greets _ key plan now, invariant.admitted _ key plan missed⟩
    | woken caller present told => exact ⟨now, admitted caller present⟩
  constructor
  · have turn := effect.world
    generalize next.world = world at turn ⊢
    cases turn with
    | rests => exact now
    | acted change isAct => exact invariant.acts _ change now
    | greeted key plan isStart => exact invariant.greets _ key plan now
    | started id key plan base entrant opened =>
        exact invariant.starts _ key plan (entered entrant).1 (entered entrant).2
    | resumed leader present ticket stage leads outcome finished =>
        exact invariant.resumes _ _ _ stage outcome now (admitted leader present)
    | shared caller present result told => exact invariant.shares _ now
  · intro after present
    rcases effect.origin present with
      ⟨before, beforePresent, _, sameKey, _⟩ | ⟨_, _, ⟨_, entrant⟩, _⟩
    · exact sameKey ▸ admitted before beforePresent
    · exact (entered entrant).2

/-- A property that holds at first holds at all times. -/
theorem always (invariant : WorldInvariant loads act holds admits) (run : Run loads act)
    (initially : holds run.world) (index : Nat) :
    holds (run.state index).world ∧
      ∀ caller ∈ (run.state index).callers, admits caller.key := by
  induction index with
  | zero => exact ⟨initially, fun caller present => nomatch present⟩
  | succ index inductionHypothesis =>
      exact invariant.happens (run.effect index) inductionHypothesis.1 inductionHypothesis.2

/-! ## Steps

What everything keeps for all keys, a step keeps as well, in whatever state the flight is. -/

theorem enters (invariant : WorldInvariant loads act holds fun _ => True)
    (now : holds flight.world) (id : Nat) (key : String) (plan : κ) :
    holds (flight.enter loads id key plan).1.world := by
  rw [Flight.enter]
  cases flight.records.lookup key with
  | some ticket => exact now
  | none =>
      rw [Flight.world_land]
      exact invariant.starts _ key plan now trivial

theorem wakes (invariant : WorldInvariant loads act holds fun _ => True)
    (now : holds flight.world) (caller : Caller κ σ ρ) :
    holds (flight.wake loads caller).1.world := by
  rw [Flight.wake]
  split
  · exact invariant.shares _ now
  · exact invariant.enters now _ _ _
  · exact now

theorem wakesAll (invariant : WorldInvariant loads act holds fun _ => True)
    (now : holds flight.world) (callers : List (Caller κ σ ρ)) :
    holds (flight.wakeAll loads callers).1.world := by
  induction callers generalizing flight with
  | nil => exact now
  | cons caller rest inductionHypothesis => exact inductionHypothesis (invariant.wakes now caller)

theorem applies (invariant : WorldInvariant loads act holds fun _ => True)
    (now : holds flight.world) (event : Flight.Event κ) :
    holds (flight.apply loads event).1.world := by
  cases event with
  | start key plan =>
      have greeted := invariant.greets flight.world key plan now
      rw [Flight.apply, Flight.ask]
      split
      · exact greeted
      · exact invariant.enters greeted _ _ _
  | finish key outcome =>
      rw [Flight.apply, Flight.finish]
      split
      · rw [Flight.world_land]
        exact invariant.resumes _ _ _ _ outcome now trivial
      · exact now
  | cancelLeader key =>
      rw [Flight.apply, Flight.cancelLeader]
      split <;> exact now
  | cancelWaiter key =>
      rw [Flight.apply, Flight.cancelWaiter]
      split <;> exact now

/-- A step keeps the property. -/
theorem step (invariant : WorldInvariant loads act holds fun _ => True)
    (now : holds flight.world) (event : Flight.Event κ) :
    holds (flight.step loads event).1.world := by
  have applied : holds (flight.apply loads event).1.untold.world := invariant.applies now event
  exact invariant.wakesAll applied (flight.apply loads event).1.told

end WorldInvariant

end RingCache
