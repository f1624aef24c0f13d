import RingCache.Proofs.Flight.Settling

/-!
# Callers of one key who come together

As long as nobody is there, a new caller is alone with its load: it is answered at once
(`step_answered`), its load ends at once (`step_passed`), or its load waits
(`step_opened`). In the last case others of the same key who come gather behind it
(`Flight.Gathers.step`), and when the load ends, all of them return its result in the
order in which they came, and nobody is left (`Flight.Gathers.step_finish`).
-/

namespace RingCache.Flight

variable {ω κ σ γ ρ : Type} {loads : Loads ω κ σ γ ρ} {flight : Flight ω κ σ ρ}
  {key : String} {plan : κ} {stage : σ} {result : ρ} {world : ω} {calls : List γ}
  {leader ticket waiting : Nat}

/-- Without callers there are no loads in flight. -/
theorem Sound.records_of_nobody (sound : flight.Sound) (nobody : flight.callers = []) :
    flight.records = [] := by
  refine List.eq_nil_iff_forall_not_mem.mpr fun record found => ?_
  obtain ⟨leader, leading, _⟩ := sound.led record found
  rw [nobody] at leading
  cases leading

theorem told_of_nobody (nobody : flight.callers = []) : flight.told = [] := by
  rw [told, nobody]
  rfl

/-- If an event tells nobody anything, it is the whole step. -/
theorem step_of_apply {event : Event κ} {next : Flight ω κ σ ρ} {notices : List (Notice γ ρ)}
    (applied : flight.apply loads event = (next, notices)) (settled : next.told = []) :
    flight.step loads event = (next, notices) := by
  have wakes : next.settle loads = wakeAll loads next.untold next.told := rfl
  rw [step, applied]
  dsimp only
  rw [wakes, settled, untold_eq_self settled, wakeAll, List.append_nil]

/-! ## A caller that comes -/

/-- Whoever else is there, it may be answered at once. -/
theorem step_greeted (settled : flight.told = [])
    (greeted : loads.greet flight.world key plan = (world, some result)) :
    flight.step loads (.start key plan) =
      ({ flight with world := world, nextCaller := flight.nextCaller + 1 },
        [.ended flight.nextCaller key (.returned result)]) := by
  refine step_of_apply ?_ settled
  rw [apply, ask, greeted]

/-- Or its load may end at once, if none of the key is in flight. -/
theorem step_loaded (sound : flight.Sound) (settled : flight.told = [])
    (free : flight.records.lookup key = none) {greeted : ω}
    (missed : loads.greet flight.world key plan = (greeted, none))
    (started : loads.start greeted key plan = (world, calls, .returned result)) :
    flight.step loads (.start key plan) =
      ({ flight with
          world := world
          nextTicket := flight.nextTicket + 1
          nextCaller := flight.nextCaller + 1 },
        calls.map (.called flight.nextCaller) ++
          [.ended flight.nextCaller key (.returned result)]) := by
  let base : Flight ω κ σ ρ :=
    { flight with world := greeted, nextCaller := flight.nextCaller + 1 }
  have baseFree : base.records.lookup key = none := free
  refine step_of_apply ?_ settled
  rw [apply, ask, missed]
  exact enter_ended baseFree sound.waiting_ne_new started rfl

/-! ## A caller that comes alone -/

/-- It may be answered at once. -/
theorem step_answered (nobody : flight.callers = [])
    (greeted : loads.greet flight.world key plan = (world, some result)) :
    flight.step loads (.start key plan) =
      ({ flight with world := world, nextCaller := flight.nextCaller + 1 },
        [.ended flight.nextCaller key (.returned result)]) :=
  step_greeted (told_of_nobody nobody) greeted

/-- Or its load may end at once. -/
theorem step_passed (sound : flight.Sound) (nobody : flight.callers = []) {greeted : ω}
    (missed : loads.greet flight.world key plan = (greeted, none))
    (started : loads.start greeted key plan = (world, calls, .returned result)) :
    flight.step loads (.start key plan) =
      ({ flight with
          world := world
          nextTicket := flight.nextTicket + 1
          nextCaller := flight.nextCaller + 1 },
        calls.map (.called flight.nextCaller) ++
          [.ended flight.nextCaller key (.returned result)]) := by
  have free : flight.records.lookup key = none := by
    rw [sound.records_of_nobody nobody]
    rfl
  exact step_loaded sound (told_of_nobody nobody) free missed started

/-- Callers of a key who gather: a leader whose load waits at a stage, and others who have
come after it. -/
structure Gathers (key : String) (plan : κ) (stage : σ) (leader ticket waiting : Nat)
    (flight : Flight ω κ σ ρ) : Prop where
  callers : flight.callers = ⟨leader, key, plan, .leading ticket stage⟩ ::
    (List.range' (leader + 1) waiting).map fun id => ⟨id, key, plan, .waiting ticket⟩
  records : flight.records = [(key, ticket)]
  numbered : flight.nextCaller = leader + 1 + waiting

/-- Or it leads a load that waits. -/
theorem step_opened (sound : flight.Sound) (nobody : flight.callers = []) {greeted : ω}
    (missed : loads.greet flight.world key plan = (greeted, none))
    (started : loads.start greeted key plan = (world, calls, .blocked stage)) :
    Gathers key plan stage flight.nextCaller flight.nextTicket 0
        (flight.step loads (.start key plan)).1 ∧
      (flight.step loads (.start key plan)).1.world = world ∧
      (flight.step loads (.start key plan)).2 = calls.map (.called flight.nextCaller) := by
  let base : Flight ω κ σ ρ :=
    { flight with world := greeted, nextCaller := flight.nextCaller + 1 }
  have noRecords : base.records = [] := sound.records_of_nobody nobody
  have free : base.records.lookup key = none := by
    rw [noRecords]
    rfl
  let opened : Flight ω κ σ ρ :=
    { base with
      world := world
      records := (key, base.nextTicket) :: base.records
      nextTicket := base.nextTicket + 1
      callers := base.callers ++
        [⟨flight.nextCaller, key, plan, .leading base.nextTicket stage⟩] }
  have alone : opened.callers =
      [⟨flight.nextCaller, key, plan, .leading flight.nextTicket stage⟩] :=
    congrArg (· ++ [_]) nobody
  have applied : flight.apply loads (.start key plan) =
      (opened, calls.map (.called flight.nextCaller)) := by
    rw [apply, ask, missed]
    exact enter_blocked free started
  have settled : opened.told = [] := by
    rw [told, alone]
    rfl
  rw [step_of_apply applied settled]
  exact ⟨⟨alone, congrArg (_ :: ·) noRecords, rfl⟩, rfl, rfl⟩

/-! ## Callers who gather -/

namespace Gathers

variable (gathers : Gathers key plan stage leader ticket waiting flight)

include gathers

theorem told : flight.told = [] := by
  rw [Flight.told, gathers.callers, List.filter_eq_nil_iff]
  intro caller present
  rcases List.mem_cons.mp present with rfl | waits
  · exact Bool.false_ne_true
  · obtain ⟨id, _, rfl⟩ := List.mem_map.mp waits
    exact Bool.false_ne_true

theorem leader?_eq : flight.leader? key = some ⟨leader, key, plan, .leading ticket stage⟩ := by
  have leads : (key == key && (Phase.leading ticket stage : Phase σ ρ).isLeading) = true := by
    rw [beq_self_eq_true, Bool.true_and]
    rfl
  rw [leader?, gathers.callers]
  exact List.find?_cons_of_pos leads

/-- Somebody else who comes, and is not answered at once, gathers with them. -/
theorem step (missed : loads.greet flight.world key plan = (world, none)) :
    Gathers key plan stage leader ticket (waiting + 1) (flight.step loads (.start key plan)).1 ∧
      (flight.step loads (.start key plan)).1.world = world ∧
      (flight.step loads (.start key plan)).2 = [] := by
  let base : Flight ω κ σ ρ :=
    { flight with world := world, nextCaller := flight.nextCaller + 1 }
  let own : Caller κ σ ρ := ⟨flight.nextCaller, key, plan, .waiting ticket⟩
  have found : base.records.lookup key = some ticket := by
    rw [show base.records = [(key, ticket)] from gathers.records, List.lookup_cons_self]
  have applied : flight.apply loads (.start key plan) = (base.add own, []) := by
    rw [apply, ask, missed]
    exact enter_waiting found
  have baseTold : base.told = [] := gathers.told
  have settled : (base.add own).told = [] := (told_add rfl).trans baseTold
  rw [step_of_apply applied settled]
  refine ⟨⟨?_, gathers.records, ?_⟩, rfl, rfl⟩
  · have after : (base.add own).callers = flight.callers ++ [own] := rfl
    rw [after, gathers.callers, List.range'_concat, List.map_append, List.cons_append]
    simp only [own, gathers.numbered, Nat.one_mul, List.map_cons, List.map_nil]
  · exact congrArg (· + 1) gathers.numbered

omit gathers in
/-- Callers who were told a result return it, one after the other. -/
theorem wakeAll_told (loads : Loads ω κ σ γ ρ) (base : Flight ω κ σ ρ) (ids : List Nat) :
    (wakeAll loads base
        (ids.map fun id => (⟨id, key, plan, .told (some result)⟩ : Caller κ σ ρ))).1.callers =
      base.callers ∧
    (wakeAll loads base
        (ids.map fun id => (⟨id, key, plan, .told (some result)⟩ : Caller κ σ ρ))).2 =
      ids.map fun id => .ended id key (.returned result) := by
  induction ids generalizing base with
  | nil => exact ⟨rfl, rfl⟩
  | cons id rest inductionHypothesis =>
      obtain ⟨kept, returned⟩ :=
        inductionHypothesis { base with world := loads.share base.world }
      exact ⟨kept, congrArg (Notice.ended id key (.returned result) :: ·) returned⟩

/-- When the load ends, its leader returns the result, and the others are told. -/
theorem apply_finish {outcome : Outcome}
    (resumed : loads.resume flight.world key plan stage outcome =
      (world, calls, .returned result)) :
    flight.apply loads (.finish key outcome) =
      (Flight.release { flight.remove leader with world := world } key ticket (some result),
        calls.map (.called leader) ++ [.ended leader key (.returned result)]) := by
  rw [apply, finish, gathers.leader?_eq]
  dsimp only
  rw [resumed]
  rfl

/-- All return its result, and nobody is left. -/
theorem step_finish {outcome : Outcome}
    (resumed : loads.resume flight.world key plan stage outcome =
      (world, calls, .returned result)) :
    (flight.step loads (.finish key outcome)).1.callers = [] ∧
      (flight.step loads (.finish key outcome)).2 = calls.map (.called leader) ++
        (List.range' leader (waiting + 1)).map fun id => .ended id key (.returned result) := by
  let waits (id : Nat) : Caller κ σ ρ := ⟨id, key, plan, .waiting ticket⟩
  let told (id : Nat) : Caller κ σ ρ := ⟨id, key, plan, .told (some result)⟩
  let others := List.range' (leader + 1) waiting
  let base : Flight ω κ σ ρ :=
    Flight.release { flight.remove leader with world := world } key ticket (some result)
  have applied : flight.apply loads (.finish key outcome) = (base, _) :=
    gathers.apply_finish resumed
  have stay : (flight.remove leader).callers = others.map waits := by
    rw [remove, gathers.callers, List.filter_cons_of_neg (by simp), List.filter_eq_self]
    intro caller present
    obtain ⟨id, listed, rfl⟩ := List.mem_map.mp present
    have after : leader + 1 ≤ id := (List.mem_range'_1.mp listed).1
    exact bne_iff_ne.mpr (Nat.ne_of_gt after)
  have learn : base.callers = others.map told := by
    have released : base.callers = (flight.remove leader).callers.map fun caller =>
        caller.tell ticket (some result) := rfl
    rw [released, stay, List.map_map]
    refine List.map_congr_left fun id _ => ?_
    simp [waits, told, Caller.tell, Phase.tell]
  have allTold : base.told = others.map told := by
    rw [Flight.told, learn, List.filter_eq_self]
    intro caller present
    obtain ⟨id, _, rfl⟩ := List.mem_map.mp present
    rfl
  have nobody : base.untold.callers = [] := by
    rw [untold, learn, List.filter_eq_nil_iff]
    intro caller present
    obtain ⟨id, _, rfl⟩ := List.mem_map.mp present
    exact Bool.false_ne_true
  obtain ⟨left, returned⟩ := wakeAll_told loads base.untold others
  have settled : base.settle loads = wakeAll loads base.untold base.told := rfl
  rw [Flight.step, applied, settled, allTold]
  refine ⟨left.trans nobody, ?_⟩
  dsimp only
  rw [returned, List.range'_succ, List.map_cons, List.append_assoc]
  rfl

omit gathers in
/-- If nobody waits, nothing happens to the world but the load. -/
theorem world_step_finish (alone : Gathers key plan stage leader ticket 0 flight)
    {outcome : Outcome}
    (resumed : loads.resume flight.world key plan stage outcome =
      (world, calls, .returned result)) :
    (flight.step loads (.finish key outcome)).1.world = world := by
  have nobody : (Flight.release { flight.remove leader with world := world } key ticket
      (some result)).callers = [] := by
    rw [release, remove, alone.callers]
    simp
  rw [step_of_apply (alone.apply_finish resumed) (told_of_nobody nobody)]
  rfl

end Gathers

end RingCache.Flight
