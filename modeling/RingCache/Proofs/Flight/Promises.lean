import RingCache.Proofs.Flight.Leaders

/-!
# What callers return

Callers hand each other the results of their loads, so that what a load returns is
not only what its own caller returns. `Promises` says what is asked of loads so that
every result fits the key of the caller that returns it, whoever computed it: greetings
and loads give fitting results, provided that the calls which loads wait for end as
they should. Between two steps nobody has been told anything (`Promises.Rests`); in a
step that is about a key, only callers of this key are told something, and only they
make calls and return (`Promises.Rests.step`).
-/

namespace RingCache

variable {ω κ σ γ ρ : Type}

/-- Whether a load that has come so far waits where it may, or gives a result that it
may give. -/
def Progress.Keeps (stays : σ → Prop) (fits : ρ → Prop) : Progress σ ρ → Prop
  | .blocked stage => stays stage
  | .returned result => fits result
  | .crashed => True

theorem Progress.Keeps.mono {stays weaker : σ → Prop} {fits looser : ρ → Prop}
    {progress : Progress σ ρ} (keeps : progress.Keeps stays fits)
    (stages : ∀ stage, stays stage → weaker stage) (results : ∀ result, fits result → looser result) :
    progress.Keeps weaker looser := by
  cases progress with
  | blocked stage => exact stages stage keeps
  | returned result => exact results result keeps
  | crashed => trivial

/-- The key that an event is about. -/
def Flight.Event.key : Flight.Event κ → String
  | .start key _ => key
  | .finish key _ => key
  | .cancelLeader key => key
  | .cancelWaiter key => key

/-- What loads promise for some worlds and keys. -/
structure Promises (loads : Loads ω κ σ γ ρ) where
  /-- The worlds. -/
  holds : ω → Prop
  /-- The keys that pass the greeting. -/
  admits : String → Prop
  /-- The stages at which loads of a key may wait. -/
  stays : String → σ → Prop
  /-- How calls may end that loads of a key wait for. -/
  accepts : String → Outcome → Prop
  /-- The calls that loads of a key may make. -/
  makes : String → γ → Prop
  /-- The results that callers of a key may return. -/
  fits : String → ρ → Prop
  admitted : ∀ world key plan, holds world → (loads.greet world key plan).2 = none → admits key
  greets : ∀ world key plan, holds world → holds (loads.greet world key plan).1 ∧
    ∀ result, (loads.greet world key plan).2 = some result → fits key result
  starts : ∀ world key plan, holds world → admits key → holds (loads.start world key plan).1 ∧
    (∀ call ∈ (loads.start world key plan).2.1, makes key call) ∧
      (loads.start world key plan).2.2.Keeps (stays key) (fits key)
  resumes : ∀ world key plan stage outcome, holds world → admits key → stays key stage →
    accepts key outcome → holds (loads.resume world key plan stage outcome).1 ∧
      (∀ call ∈ (loads.resume world key plan stage outcome).2.1, makes key call) ∧
        (loads.resume world key plan stage outcome).2.2.Keeps (stays key) (fits key)
  shares : ∀ world, holds world → holds (loads.share world)

namespace Promises

variable {loads : Loads ω κ σ γ ρ}

/-- Nobody but callers changes the world. -/
abbrev still (world : ω) (_ : Unit) : ω := world

/-- What holds of a caller while a step about a key goes on: its load waits where it
may, and if it was told something, this was about the key, and a result fits. -/
structure Kept (promises : Promises loads) (own : String) (caller : Caller κ σ ρ) : Prop where
  admitted : promises.admits caller.key
  leads : ∀ ticket stage, caller.phase = .leading ticket stage → promises.stays caller.key stage
  told : ∀ result, caller.phase = .told result → caller.key = own
  fits : ∀ result, caller.phase = .told (some result) → promises.fits caller.key result

/-- What holds of a flight between two steps. -/
structure Rests (promises : Promises loads) (flight : Flight ω κ σ ρ) : Prop where
  sound : flight.Sound
  settled : flight.told = []
  world : promises.holds flight.world
  admitted : ∀ caller ∈ flight.callers, promises.admits caller.key
  leads : ∀ caller ∈ flight.callers, ∀ ticket stage, caller.phase = .leading ticket stage →
    promises.stays caller.key stage

/-- Whether an event is about a key and ends calls as it may. -/
def Concerns (promises : Promises loads) (own : String) (event : Flight.Event κ) : Prop :=
  event.key = own ∧ ∀ key outcome, event = .finish key outcome → promises.accepts key outcome

variable {promises : Promises loads} {own key : String} {flight next : Flight ω κ σ ρ}
  {happening : Happening Unit κ} {notices : List (Notice γ ρ)}

/-! ## One happening -/

/-- A caller keeps what it has to when it is told a result for its key. -/
theorem Kept.tell {caller : Caller κ σ ρ} (kept : promises.Kept own caller) {ticket : Nat}
    {result : Option ρ}
    (told : caller.phase = .waiting ticket →
      caller.key = own ∧ ∀ value, result = some value → promises.fits caller.key value) :
    promises.Kept own (caller.tell ticket result) := by
  rcases caller.phase.tell_cases ticket result with ⟨waits, changed⟩ | ⟨_, same⟩
  · refine ⟨kept.admitted, ?_, fun _ _ => (told waits).1, ?_⟩
    · rw [Caller.phase_tell, changed]
      nofun
    · intro value isTold
      rw [Caller.phase_tell, changed] at isTold
      exact (told waits).2 value (Phase.told.inj isTold)
  · exact ⟨kept.admitted, by rw [Caller.phase_tell, same]; exact kept.leads,
      by rw [Caller.phase_tell, same]; exact kept.told,
      by rw [Caller.phase_tell, same]; exact kept.fits⟩

theorem Kept.waiting (admitted : promises.admits key) (id : Nat) (plan : κ) (ticket : Nat) :
    promises.Kept own (⟨id, key, plan, .waiting ticket⟩ : Caller κ σ ρ) :=
  ⟨admitted, nofun, nofun, nofun⟩

theorem Kept.leading (admitted : promises.admits key) {stage : σ}
    (stands : promises.stays key stage) (id : Nat) (plan : κ) (ticket : Nat) :
    promises.Kept own (⟨id, key, plan, .leading ticket stage⟩ : Caller κ σ ρ) := by
  refine ⟨admitted, ?_, nofun, nofun⟩
  intro other later isPhase
  obtain ⟨-, rfl⟩ := Phase.leading.inj isPhase
  exact stands

/-- Who ends with what its load came to returns a fitting result. -/
theorem fits_of_ending {progress : Progress σ ρ} {ending : Ending ρ} {result : ρ}
    (keeps : progress.Keeps (promises.stays key) (promises.fits key))
    (ends : progress.ending? = some ending) (returned : ending = .returned result) :
    promises.fits key result := by
  cases progress with
  | blocked stage => cases ends
  | returned own =>
      rw [returned] at ends
      obtain rfl : own = result := Ending.returned.inj (Option.some.inj ends)
      exact keeps
  | crashed =>
      rw [returned] at ends
      cases ends

/-- Whether a happening belongs to a step about a key: it is such an event, or somebody
goes on. -/
def Belongs (promises : Promises loads) (own : String) : Happening Unit κ → Prop
  | .event event => promises.Concerns own event
  | .wake _ => True
  | .withdraw _ => False
  | .nothing => False
  | .act _ => False

/-- Who enters in such a step does so for its key, and finds the world as it has to be. -/
theorem entered (belongs : promises.Belongs own happening) (now : promises.holds flight.world)
    (kept : ∀ caller ∈ flight.callers, promises.Kept own caller) {id : Nat} {plan : κ}
    {base : Flight ω κ σ ρ}
    (entrant : Flight.Entrant loads flight happening id key plan base) :
    key = own ∧ promises.admits key ∧ promises.holds base.world ∧
      ∀ caller ∈ base.callers, promises.Kept own caller := by
  have stay : ∀ caller ∈ base.callers, promises.Kept own caller :=
    fun caller present => kept caller (entrant.mem_of_mem_base present)
  cases entrant with
  | fresh key plan missed =>
      exact ⟨belongs.1, promises.admitted _ key plan now missed, (promises.greets _ key plan now).1,
        stay⟩
  | woken caller present told =>
      exact ⟨(kept caller present).told none told, (kept caller present).admitted, now, stay⟩

/-- What a load promises whose start is known. -/
theorem starts_eq (promises : Promises loads) {world next : ω} {plan : κ} {calls : List γ}
    {progress : Progress σ ρ} (now : promises.holds world) (admitted : promises.admits key)
    (started : loads.start world key plan = (next, calls, progress)) :
    promises.holds next ∧ (∀ call ∈ calls, promises.makes key call) ∧
      progress.Keeps (promises.stays key) (promises.fits key) := by
  have promised := promises.starts world key plan now admitted
  rwa [started] at promised

/-- What a load promises of which is known how it goes on. -/
theorem resumes_eq {leader : Caller κ σ ρ} {ticket : Nat} {stage : σ} {outcome : Outcome}
    {next : ω} {calls : List γ} {progress : Progress σ ρ} (now : promises.holds flight.world)
    (kept : promises.Kept own leader) (accepted : promises.accepts leader.key outcome)
    (leads : leader.phase = .leading ticket stage)
    (resumed : loads.resume flight.world leader.key leader.plan stage outcome =
      (next, calls, progress)) :
    promises.holds next ∧ (∀ call ∈ calls, promises.makes leader.key call) ∧
      progress.Keeps (promises.stays leader.key) (promises.fits leader.key) := by
  have promised := promises.resumes flight.world leader.key leader.plan stage outcome now
    kept.admitted (kept.leads ticket stage leads) accepted
  rwa [resumed] at promised

/-- What may be seen in such a step: calls that loads of the key may make, and callers of
the key that return fitting results. -/
def Allows (promises : Promises loads) (own : String) : Notice γ ρ → Prop
  | .called _ call => promises.makes own call
  | .ended _ key (.returned result) => key = own ∧ promises.fits key result
  | .ended _ _ .cancelled => True
  | .ended _ _ .crashed => True

/-- What is seen of a load that ends. -/
theorem allows_of_end (isOwn : key = own) {calls : List γ} {progress : Progress σ ρ}
    {ending : Ending ρ} (makes : ∀ call ∈ calls, promises.makes key call)
    (ends : progress.ending? = some ending)
    (keeps : progress.Keeps (promises.stays key) (promises.fits key)) (id : Nat) :
    ∀ notice ∈ calls.map (Notice.called id) ++ [.ended id key ending],
      promises.Allows own notice := by
  intro notice mem
  rcases List.mem_append.mp mem with called | ended
  · obtain ⟨call, listed, rfl⟩ := List.mem_map.mp called
    exact isOwn ▸ makes call listed
  · rw [List.mem_singleton.mp ended]
    cases ending with
    | returned result => exact ⟨isOwn, fits_of_ending keeps ends rfl⟩
    | cancelled => trivial
    | crashed => trivial

theorem allows_of_calls (isOwn : key = own) {calls : List γ}
    (makes : ∀ call ∈ calls, promises.makes key call) (id : Nat) :
    ∀ notice ∈ calls.map (Notice.called id), promises.Allows own (notice : Notice γ ρ) := by
  intro notice mem
  obtain ⟨call, listed, rfl⟩ := List.mem_map.mp mem
  exact isOwn ▸ makes call listed

/-- Those who wait for the load of a leader have its key, so that its result fits them too. -/
theorem released (sound : flight.Sound) (kept : ∀ caller ∈ flight.callers, promises.Kept own caller)
    {leader : Caller κ σ ρ} {ticket : Nat} (leading : leader ∈ flight.callers)
    (leads : leader.phase.leads ticket) (isOwn : leader.key = own) {result : Option ρ}
    (fits : ∀ value, result = some value → promises.fits leader.key value) (world : ω) :
    ∀ caller ∈ (Flight.release { flight.remove leader.id with world := world } leader.key ticket
      result).callers, promises.Kept own caller := by
  intro caller present
  obtain ⟨before, stays, rfl⟩ := Flight.mem_callers_release.mp present
  have beforePresent := (Flight.mem_callers_remove.mp stays).1
  refine (kept before beforePresent).tell fun waits => ?_
  rw [← sound.leader_key leading leads beforePresent waits]
  exact ⟨isOwn, fits⟩

/-- One happening of such a step keeps all this, and shows nothing else. -/
theorem happens (promises : Promises loads)
    (effect : Flight.Effect loads still flight happening next notices) (sound : flight.Sound)
    (belongs : promises.Belongs own happening) (now : promises.holds flight.world)
    (kept : ∀ caller ∈ flight.callers, promises.Kept own caller) :
    promises.holds next.world ∧ (∀ caller ∈ next.callers, promises.Kept own caller) ∧
      ∀ notice ∈ notices, promises.Allows own notice := by
  cases effect with
  | idle happening moot => exact ⟨now, kept, nofun⟩
  | acted change => exact belongs.elim
  | answered key plan result greeted =>
      refine ⟨(promises.greets _ key plan now).1, kept, fun notice mem => ?_⟩
      rw [List.mem_singleton.mp mem]
      exact ⟨belongs.1, (promises.greets _ key plan now).2 _ greeted⟩
  | joined entrant ticket found =>
      obtain ⟨_, admitted, nowBase, keptBase⟩ := entered belongs now kept entrant
      refine ⟨nowBase, fun caller present => ?_, nofun⟩
      rcases Flight.mem_callers_add.mp present with stays | rfl
      · exact keptBase caller stays
      · exact .waiting admitted _ _ _
  | opened entrant free world calls stage started =>
      obtain ⟨isOwn, admitted, nowBase, keptBase⟩ := entered belongs now kept entrant
      obtain ⟨nowNext, makes, stands⟩ := promises.starts_eq nowBase admitted started
      refine ⟨nowNext, fun caller present => ?_, allows_of_calls isOwn makes _⟩
      rcases List.mem_append.mp present with stays | added
      · exact keptBase caller stays
      · rw [List.mem_singleton.mp added]
        exact .leading admitted stands _ _ _
  | passed entrant free world calls progress ending started ends =>
      obtain ⟨isOwn, admitted, nowBase, keptBase⟩ := entered belongs now kept entrant
      obtain ⟨nowNext, makes, keeps⟩ := promises.starts_eq nowBase admitted started
      exact ⟨nowNext, keptBase, allows_of_end isOwn makes ends keeps _⟩
  | advanced leader present ticket stage leads outcome world calls later resumed =>
      obtain ⟨nowNext, makes, keeps⟩ := promises.resumes_eq now (kept leader present)
        (belongs.2 leader.key outcome rfl) leads resumed
      refine ⟨nowNext, fun caller after => ?_, allows_of_calls belongs.1 makes _⟩
      rcases Flight.mem_callers_add.mp after with stays | rfl
      · exact kept caller (Flight.mem_callers_remove.mp stays).1
      · exact .leading (kept _ present).admitted keeps _ _ _
  | concluded leader present ticket stage leads outcome world calls progress ending resumed ends =>
      obtain ⟨nowNext, makes, keeps⟩ := promises.resumes_eq now (kept leader present)
        (belongs.2 leader.key outcome rfl) leads resumed
      refine ⟨nowNext, released sound kept present ⟨stage, leads⟩ belongs.1
        (fun value isValue => ?_) world, allows_of_end belongs.1 makes ends keeps _⟩
      exact fits_of_ending keeps ends (Ending.result?_eq_some.mp isValue)
  | abandoned leader present ticket stage leads =>
      refine ⟨now, released sound kept present ⟨stage, leads⟩ belongs.1 (fun _ isNone => ?_) _,
        fun notice mem => ?_⟩
      · cases isNone
      · rw [List.mem_singleton.mp mem]
        trivial
  | shared caller present result told =>
      refine ⟨promises.shares _ now, fun other stays => ?_, fun notice mem => ?_⟩
      · exact kept other (Flight.mem_callers_remove.mp stays).1
      · rw [List.mem_singleton.mp mem]
        exact ⟨(kept caller present).told _ told, (kept caller present).fits _ told⟩
  | withdrawn happening caller present follows cancelled =>
      refine ⟨now, fun other stays => ?_, fun notice mem => ?_⟩
      · exact kept other (Flight.mem_callers_remove.mp stays).1
      · rw [List.mem_singleton.mp mem]
        trivial

/-! ## Steps -/

/-- Several happenings of such a step keep all this too. -/
theorem happensAll (promises : Promises loads) (sound : flight.Sound)
    (happenings : List (Happening Unit κ))
    (belong : ∀ happening ∈ happenings, promises.Belongs own happening)
    (now : promises.holds flight.world)
    (kept : ∀ caller ∈ flight.callers, promises.Kept own caller) :
    let happened := flight.happenAll loads still happenings
    promises.holds happened.1.world ∧ (∀ caller ∈ happened.1.callers, promises.Kept own caller) ∧
      ∀ notice ∈ happened.2, promises.Allows own notice := by
  induction happenings generalizing flight with
  | nil => exact ⟨now, kept, nofun⟩
  | cons happening rest inductionHypothesis =>
      have effect := sound.effect loads still happening
      obtain ⟨nowNext, keptNext, allowsFirst⟩ :=
        promises.happens effect sound (belong happening List.mem_cons_self) now kept
      obtain ⟨nowLast, keptLast, allowsOthers⟩ := inductionHypothesis (effect.sound sound)
        (fun other mem => belong other (List.mem_cons_of_mem _ mem)) nowNext keptNext
      refine ⟨nowLast, keptLast, fun notice mem => ?_⟩
      rcases List.mem_append.mp mem with first | others
      · exact allowsFirst notice first
      · exact allowsOthers notice others

/-- A flight without callers rests. -/
theorem rests_of_nobody (promises : Promises loads) (sound : flight.Sound)
    (nobody : flight.callers = []) (now : promises.holds flight.world) : promises.Rests flight where
  sound := sound
  settled := by rw [Flight.told, nobody]; rfl
  world := now
  admitted _ present := by
    rw [nobody] at present
    cases present
  leads _ present := by
    rw [nobody] at present
    cases present

/-- After a step about a key the flight rests again, and nothing else was seen in it. -/
theorem Rests.step (rests : promises.Rests flight) {event : Flight.Event κ}
    (concerns : promises.Concerns own event) :
    promises.Rests (flight.step loads event).1 ∧
      ∀ notice ∈ (flight.step loads event).2, promises.Allows own notice := by
  have nobody : ∀ caller ∈ flight.callers, ∀ result, caller.phase ≠ .told result := by
    intro caller present result isTold
    exact Flight.told_ne_nil present isTold rests.settled
  have kept : ∀ caller ∈ flight.callers, promises.Kept own caller := fun caller present =>
    ⟨rests.admitted caller present, rests.leads caller present,
      fun result isTold => absurd isTold (nobody caller present _),
      fun result isTold => absurd isTold (nobody caller present _)⟩
  have stepped := rests.sound.step_eq loads still event
  have appliedSound : (flight.apply loads event).1.Sound :=
    (rests.sound.effect loads still (.event event)).sound rests.sound
  have belong : ∀ happening ∈ Happening.event event :: (flight.apply loads event).1.wakings,
      promises.Belongs own happening := by
    intro happening mem
    rcases List.mem_cons.mp mem with rfl | waking
    · exact concerns
    · obtain ⟨caller, _, rfl⟩ := List.mem_map.mp waking
      trivial
  obtain ⟨now, keptNext, allows⟩ := promises.happensAll rests.sound _ belong rests.world kept
  rw [← stepped] at now keptNext allows
  refine ⟨⟨?_, appliedSound.told_settle loads, now, fun caller present => ?_,
    fun caller present => ?_⟩, allows⟩
  · rw [stepped]
    exact rests.sound.happenAll _
  · exact (keptNext caller present).admitted
  · exact (keptNext caller present).leads

end Promises

end RingCache
