import RingCache.Proofs.Flight.Fates

/-!
# Steps as happenings

`Flight.step` lets an event happen and then everybody who was told go on. Here
it is shown to be a list of happenings: the event, and one waking for each
caller that was told, in the order in which they came (`step_eq_happenAll`).
After it nobody is told any more (`told_settle`). So whatever is reached by
`Flight.run` is also reached by a run (`exists_run`), and laws of runs are laws
of it.
-/

namespace RingCache

variable {ω κ σ γ ρ α : Type}

namespace Flight

variable {loads : Loads ω κ σ γ ρ} {act : ω → α → ω} {flight : Flight ω κ σ ρ}
  {caller : Caller κ σ ρ}

/-- Happenings one after the other, and what can be seen of them. -/
def happenAll (loads : Loads ω κ σ γ ρ) (act : ω → α → ω) (flight : Flight ω κ σ ρ) :
    List (Happening α κ) → Flight ω κ σ ρ × List (Notice γ ρ)
  | [] => (flight, [])
  | happening :: rest =>
      let happened := flight.happen loads act happening
      let others := happened.1.happenAll loads act rest
      (others.1, happened.2 ++ others.2)

/-- The callers that have been told how their load ended. -/
def told (flight : Flight ω κ σ ρ) : List (Caller κ σ ρ) :=
  flight.callers.filter fun caller => caller.phase.isTold

/-- The flight without those callers. -/
def untold (flight : Flight ω κ σ ρ) : Flight ω κ σ ρ :=
  { flight with callers := flight.callers.filter fun caller => !caller.phase.isTold }

/-- The happenings in which those callers go on. -/
def wakings (flight : Flight ω κ σ ρ) : List (Happening α κ) :=
  flight.told.map fun caller => .wake caller.id

theorem mem_told : caller ∈ flight.told ↔ caller ∈ flight.callers ∧ caller.phase.isTold := by
  simp [told]

/-- As long as a caller that was told has not gone on, there is one. -/
theorem told_ne_nil (present : caller ∈ flight.callers) {result : Option ρ}
    (phase : caller.phase = .told result) : flight.told ≠ [] := by
  have isTold : caller ∈ flight.told := mem_told.mpr ⟨present, by rw [phase]; rfl⟩
  exact List.ne_nil_of_mem isTold

/-- Whatever happens, a flight stays sound. -/
theorem Sound.happenAll (sound : flight.Sound) (happenings : List (Happening α κ)) :
    (flight.happenAll loads act happenings).1.Sound := by
  induction happenings generalizing flight with
  | nil => exact sound
  | cons happening rest inductionHypothesis =>
      exact inductionHypothesis ((sound.effect loads act happening).sound sound)

/-! ## One caller goes on -/

theorem untold_add (runs : caller.phase.isTold = false) :
    (flight.add caller).untold = flight.untold.add caller := by
  simp [add, untold, runs]

theorem told_add (runs : caller.phase.isTold = false) : (flight.add caller).told = flight.told := by
  simp [add, told, runs]

/-- Those who were told make no difference to a caller that enters. -/
theorem enter_untold {id : Nat} {key : String} {plan : κ}
    (unheld : ∀ caller ∈ flight.callers, caller.phase ≠ .waiting flight.nextTicket) :
    flight.untold.enter loads id key plan =
        ((flight.enter loads id key plan).1.untold, (flight.enter loads id key plan).2) ∧
      (flight.enter loads id key plan).1.told = flight.told := by
  have unheldUntold : ∀ caller ∈ flight.untold.callers,
      caller.phase ≠ .waiting flight.untold.nextTicket :=
    fun caller present => unheld caller (List.mem_filter.mp present).1
  cases lookedUp : flight.records.lookup key with
  | some ticket =>
      have lookedUpUntold : flight.untold.records.lookup key = some ticket := lookedUp
      rw [enter_waiting lookedUp, enter_waiting lookedUpUntold]
      exact ⟨by rw [untold_add rfl], told_add rfl⟩
  | none =>
      have lookedUpUntold : flight.untold.records.lookup key = none := lookedUp
      obtain ⟨⟨world, calls, progress⟩, started⟩ :
          ∃ pass, loads.start flight.world key plan = pass := ⟨_, rfl⟩
      have startedUntold : loads.start flight.untold.world key plan = (world, calls, progress) :=
        started
      cases ends : progress.ending? with
      | none =>
          obtain ⟨stage, rfl⟩ := Progress.ending?_eq_none.mp ends
          rw [enter_blocked lookedUp started, enter_blocked lookedUpUntold startedUntold]
          constructor <;> simp [untold, told, Phase.isTold]
      | some ending =>
          rw [enter_ended lookedUp unheld started ends,
            enter_ended lookedUpUntold unheldUntold startedUntold ends]
          exact ⟨rfl, rfl⟩

/-- Those who were told make no difference to one of them that goes on. -/
theorem wake_untold (loads : Loads ω κ σ γ ρ) (isTold : caller.phase.isTold)
    (unheld : ∀ caller ∈ flight.callers, caller.phase ≠ .waiting flight.nextTicket) :
    flight.untold.wake loads caller =
        ((flight.wake loads caller).1.untold, (flight.wake loads caller).2) ∧
      (flight.wake loads caller).1.told = flight.told := by
  obtain ⟨result, phase⟩ := Phase.isTold_iff.mp isTold
  cases result with
  | some result =>
      rw [wake, wake, phase]
      exact ⟨rfl, rfl⟩
  | none =>
      rw [wake, wake, phase]
      exact enter_untold unheld

/-! ## Everybody goes on -/

/-- A caller that was told is not among the others. -/
theorem Sound.untold_remove (sound : flight.Sound) (present : caller ∈ flight.callers)
    (isTold : caller.phase.isTold) : (flight.remove caller.id).untold = flight.untold := by
  have kept : ((flight.callers.filter fun other => other.id != caller.id).filter
      fun other => !other.phase.isTold) =
        flight.callers.filter fun other => !other.phase.isTold := by
    rw [List.filter_filter]
    refine List.filter_congr fun other otherPresent => ?_
    by_cases same : other.id = caller.id
    · rw [sound.sameCaller otherPresent present same, isTold]
      rfl
    · simp [same]
  rw [untold, Flight.remove, kept]
  rfl

/-- Without the first of those who were told, the others are left. -/
theorem Sound.told_remove (sound : flight.Sound) {rest : List (Caller κ σ ρ)}
    (areTold : flight.told = caller :: rest) : (flight.remove caller.id).told = rest := by
  have differ : ((caller :: rest).map Caller.id).Nodup :=
    areTold ▸ sound.callersDiffer.sublist (List.filter_sublist.map _)
  have others : ∀ other ∈ rest, other.id ≠ caller.id := by
    intro other mem same
    exact (List.nodup_cons.mp differ).1 (same ▸ List.mem_map_of_mem mem)
  have swapped : (flight.remove caller.id).told =
      flight.told.filter fun other => other.id != caller.id := by
    simp only [told, Flight.remove, List.filter_filter, Bool.and_comm]
  rw [swapped, areTold, List.filter_cons_of_neg (by simp)]
  exact List.filter_eq_self.mpr fun other mem => by simpa using others other mem

/-- Without anybody who was told, the others are all there are. -/
theorem untold_eq_self (nobody : flight.told = []) : flight.untold = flight := by
  have kept : (flight.callers.filter fun caller => !caller.phase.isTold) = flight.callers := by
    refine List.filter_eq_self.mpr fun caller present => ?_
    have notTold := List.filter_eq_nil_iff.mp nobody caller present
    simpa using notTold
  rw [untold, kept]

/-- Waking those who were told, one by one, is letting them all go on, and leaves
nobody who was told. -/
theorem Sound.wakeAll_eq (loads : Loads ω κ σ γ ρ) (act : ω → α → ω) (sound : flight.Sound)
    {waking : List (Caller κ σ ρ)} (areTold : flight.told = waking) :
    wakeAll loads flight.untold waking =
        Flight.happenAll loads act flight (waking.map fun caller => .wake caller.id) ∧
      (wakeAll loads flight.untold waking).1.told = [] := by
  induction waking generalizing flight with
  | nil =>
      rw [untold_eq_self areTold]
      exact ⟨rfl, areTold⟩
  | cons first rest inductionHypothesis =>
      obtain ⟨present, isTold⟩ : first ∈ flight.callers ∧ first.phase.isTold :=
        mem_told.mp (areTold ▸ List.mem_cons_self)
      obtain ⟨result, phase⟩ := Phase.isTold_iff.mp isTold
      have happened := sound.happen_wake loads act present isTold
      have baseSound : (flight.remove first.id).Sound := sound.remove present (by rw [phase]; rfl)
      have nextSound : ((flight.remove first.id).wake loads first).1.Sound :=
        happened ▸ (sound.effect loads act (.wake first.id)).sound sound
      obtain ⟨woken, toldKept⟩ := wake_untold loads isTold baseSound.waiting_ne_new
      rw [sound.untold_remove present isTold] at woken
      obtain ⟨othersWoken, nobody⟩ :=
        inductionHypothesis nextSound (toldKept.trans (sound.told_remove areTold))
      rw [List.map_cons, wakeAll, woken, Flight.happenAll, happened]
      exact ⟨by rw [othersWoken], nobody⟩

/-- To settle is to wake everybody who was told. -/
theorem Sound.settle_eq (loads : Loads ω κ σ γ ρ) (act : ω → α → ω) (sound : flight.Sound) :
    flight.settle loads = flight.happenAll loads act flight.wakings :=
  (sound.wakeAll_eq loads act rfl).1

/-- After settling, nobody is told. -/
theorem Sound.told_settle (loads : Loads ω κ σ γ ρ) (sound : flight.Sound) :
    (flight.settle loads).1.told = [] :=
  (sound.wakeAll_eq loads (fun world (_ : Unit) => world) rfl).2

/-- A settled flight is sound. -/
theorem Sound.settle (loads : Loads ω κ σ γ ρ) (sound : flight.Sound) :
    (flight.settle loads).1.Sound :=
  sound.settle_eq loads (fun world (_ : Unit) => world) ▸ sound.happenAll _

/-- Everybody who was told a result returns it when all go on. -/
theorem mem_wakeAll {waking : List (Caller κ σ ρ)} {result : ρ} (waits : caller ∈ waking)
    (phase : caller.phase = .told (some result)) :
    .ended caller.id caller.key (.returned result) ∈ (wakeAll loads flight waking).2 := by
  induction waking generalizing flight with
  | nil => cases waits
  | cons first rest inductionHypothesis =>
      rw [wakeAll]
      rcases List.mem_cons.mp waits with rfl | later
      · refine List.mem_append_left _ ?_
        rw [wake, phase]
        exact List.mem_singleton_self _
      · exact List.mem_append_right _ (inductionHypothesis later)

/-- Everybody who was told a result returns it in settling. -/
theorem mem_settle (loads : Loads ω κ σ γ ρ) {result : ρ} (present : caller ∈ flight.callers)
    (phase : caller.phase = .told (some result)) :
    .ended caller.id caller.key (.returned result) ∈ (flight.settle loads).2 :=
  mem_wakeAll (mem_told.mpr ⟨present, by rw [phase]; rfl⟩) phase

/-! ## Steps and runs -/

/-- A step is an event and the waking of everybody who was then told. -/
theorem Sound.step_eq (loads : Loads ω κ σ γ ρ) (act : ω → α → ω) (sound : flight.Sound)
    (event : Event κ) :
    flight.step loads event =
      flight.happenAll loads act (.event event :: (flight.apply loads event).1.wakings) := by
  have appliedSound : (flight.apply loads event).1.Sound :=
    (sound.effect loads act (.event event)).sound sound
  rw [step, appliedSound.settle_eq loads act]
  rfl

/-- After a step a flight is sound. -/
theorem Sound.step (sound : flight.Sound) (loads : Loads ω κ σ γ ρ) (event : Event κ) :
    (flight.step loads event).1.Sound :=
  sound.step_eq loads (fun world (_ : Unit) => world) event ▸ sound.happenAll _

/-- In a step in which a load ends with a result, everybody who waits for it
returns the result too. -/
theorem Sound.mem_step (sound : flight.Sound) (loads : Loads ω κ σ γ ρ) (event : Event κ)
    {leader waiter : Caller κ σ ρ} {ticket : Nat} {result : ρ}
    (leading : leader ∈ flight.callers) (leads : leader.phase.leads ticket)
    (ended : .ended leader.id leader.key (.returned result) ∈ (flight.apply loads event).2)
    (present : waiter ∈ flight.callers) (waits : waiter.phase = .waiting ticket) :
    .ended waiter.id waiter.key (.returned result) ∈ (flight.step loads event).2 := by
  have effect := sound.effect loads (fun world (_ : Unit) => world) (.event event)
  obtain ⟨told, _⟩ := effect.learns_of_ended sound leading leads ended present waits
  have returned := mem_settle loads told rfl
  exact List.mem_append_right _ returned

theorem happenAll_append (first second : List (Happening α κ)) :
    flight.happenAll loads act (first ++ second) =
      (((flight.happenAll loads act first).1.happenAll loads act second).1,
        (flight.happenAll loads act first).2 ++
          ((flight.happenAll loads act first).1.happenAll loads act second).2) := by
  induction first generalizing flight with
  | nil => rfl
  | cons happening rest inductionHypothesis =>
      rw [List.cons_append, happenAll, happenAll, inductionHypothesis]
      simp only [List.append_assoc]

/-- Steps one after the other are happenings one after the other. -/
theorem Sound.run_eq (loads : Loads ω κ σ γ ρ) (act : ω → α → ω) (sound : flight.Sound)
    (events : List (Event κ)) :
    ∃ happenings : List (Happening α κ),
      flight.run loads events = flight.happenAll loads act happenings := by
  induction events generalizing flight with
  | nil => exact ⟨[], rfl⟩
  | cons event rest inductionHypothesis =>
      have stepped := sound.step_eq loads act event
      have nextSound : (flight.step loads event).1.Sound := stepped ▸ sound.happenAll _
      obtain ⟨happenings, others⟩ := inductionHypothesis nextSound
      refine ⟨.event event :: (flight.apply loads event).1.wakings ++ happenings, ?_⟩
      rw [happenAll_append, ← stepped, Flight.run, others]

end Flight

namespace Run

variable {loads : Loads ω κ σ γ ρ} {act : ω → α → ω}

/-- A run that has certain happenings from some time on does what they do. -/
theorem state_add (run : Run loads act) (happenings : List (Happening α κ)) (index : Nat)
    (follows : ∀ offset (within : offset < happenings.length),
      run.happening (index + offset) = happenings[offset]) :
    run.state (index + happenings.length) =
        ((run.state index).happenAll loads act happenings).1 ∧
      (List.range' index happenings.length).flatMap run.notices =
        ((run.state index).happenAll loads act happenings).2 := by
  induction happenings generalizing index with
  | nil => exact ⟨rfl, rfl⟩
  | cons happening rest inductionHypothesis =>
      have now : run.happening index = happening := follows 0 (Nat.zero_lt_succ _)
      have later : ∀ offset (within : offset < rest.length),
          run.happening (index + 1 + offset) = rest[offset] := by
        intro offset within
        have followed := follows (offset + 1) (Nat.succ_lt_succ within)
        rw [← Nat.add_assoc, Nat.add_right_comm] at followed
        exact followed
      obtain ⟨reached, seen⟩ := inductionHypothesis (index + 1) later
      have next : run.state (index + 1) = ((run.state index).happen loads act happening).1 := by
        rw [← now]
        rfl
      have noticed : run.notices index = ((run.state index).happen loads act happening).2 := by
        rw [← now]
        rfl
      rw [next] at reached seen
      rw [List.length_cons, Flight.happenAll, ← Nat.add_assoc, Nat.add_right_comm,
        List.range'_succ, List.flatMap_cons, noticed, seen, reached]
      exact ⟨rfl, rfl⟩

/-- Finitely many happenings begin a run. -/
theorem exists_happenAll (loads : Loads ω κ σ γ ρ) (act : ω → α → ω) (world : ω)
    (happenings : List (Happening α κ)) :
    ∃ (run : Run loads act) (index : Nat), run.world = world ∧
      run.state index = (Flight.happenAll loads act { world := world } happenings).1 ∧
      (List.range index).flatMap run.notices =
        (Flight.happenAll loads act { world := world } happenings).2 := by
  let run : Run loads act := ⟨world, fun index => happenings.getD index .nothing⟩
  refine ⟨run, happenings.length, rfl, ?_⟩
  have reached := run.state_add happenings 0 fun offset within => by simp [run, within]
  rw [Nat.zero_add] at reached
  rw [List.range_eq_range']
  exact reached

end Run

/-- Whatever is reached and seen by events on a flight without callers is reached
and seen by a run. -/
theorem Flight.exists_run (loads : Loads ω κ σ γ ρ) (act : ω → α → ω) (world : ω)
    (events : List (Flight.Event κ)) :
    ∃ (run : Run loads act) (index : Nat), run.world = world ∧
      run.state index = (Flight.run loads { world := world } events).1 ∧
      (List.range index).flatMap run.notices =
        (Flight.run loads { world := world } events).2 := by
  have sound : Sound ({ world := world } : Flight ω κ σ ρ) := Sound.empty world
  obtain ⟨happenings, same⟩ := sound.run_eq loads act events
  rw [same]
  exact Run.exists_happenAll loads act world happenings

end RingCache
