import RingCache.Proofs.Flight.Effects

/-!
# What becomes of each caller

An effect seen from one caller: `Fate` says how a caller of a flight is found in
the next one, or how it ended, and what can be seen of it meanwhile
(`Effect.fate`). Callers that are not from the flight before have just come
(`Effect.origin`), and a caller that has ended is never seen again
(`Effect.gone`).
-/

namespace RingCache

variable {ω κ σ γ ρ α : Type}

/-- The caller that a notice is about. -/
def Notice.caller : Notice γ ρ → Nat
  | .called caller _ => caller
  | .ended caller _ _ => caller

/-- The same caller in another phase. -/
def Caller.enter (caller : Caller κ σ ρ) (phase : Phase σ ρ) : Caller κ σ ρ :=
  { caller with phase := phase }

namespace Flight

/-- Whether a caller has come and ended. -/
def Gone (flight : Flight ω κ σ ρ) (id : Nat) : Prop :=
  id < flight.nextCaller ∧ ∀ caller ∈ flight.callers, caller.id ≠ id

/-- Whether a happening makes a caller start a load of a key; the load gets the
next ticket. -/
def Opens (loads : Loads ω κ σ γ ρ) (flight : Flight ω κ σ ρ) (happening : Happening α κ)
    (id : Nat) (key : String) : Prop :=
  (∃ plan base, Entrant loads flight happening id key plan base) ∧
    ∀ record ∈ flight.records, record.1 ≠ key

/-- What becomes of a caller. -/
inductive Fate (loads : Loads ω κ σ γ ρ) (flight : Flight ω κ σ ρ) (happening : Happening α κ)
    (next : Flight ω κ σ ρ) (notices : List (Notice γ ρ)) (caller : Caller κ σ ρ) : Prop where
  /-- It stays as it is, and nothing is seen of it. -/
  | stays (present : caller ∈ next.callers)
      (silent : ∀ notice ∈ notices, notice.caller ≠ caller.id)
  /-- It learns how the load ended that it waits for. -/
  | learns (ticket : Nat) (waits : caller.phase = .waiting ticket) (leader : Caller κ σ ρ)
      (leading : leader ∈ flight.callers) (leads : leader.phase.leads ticket)
      (ending : Ending ρ) (ended : .ended leader.id leader.key ending ∈ notices)
      (told : caller.enter (.told ending.result?) ∈ next.callers)
      (silent : ∀ notice ∈ notices, notice.caller ≠ caller.id)
  /-- Its load goes on. -/
  | proceeds (ticket : Nat) (stage later : σ) (leads : caller.phase = .leading ticket stage)
      (present : caller.enter (.leading ticket later) ∈ next.callers)
      (calls : ∀ notice ∈ notices, ∃ call, notice = .called caller.id call)
  /-- It joins those who wait for a load. -/
  | joins (ticket : Nat) (told : caller.phase = .told none)
      (found : (caller.key, ticket) ∈ flight.records)
      (present : caller.enter (.waiting ticket) ∈ next.callers) (silent : notices = [])
  /-- It starts a load. -/
  | opens (stage : σ) (told : caller.phase = .told none)
      (opened : flight.Opens loads happening caller.id caller.key)
      (present : caller.enter (.leading flight.nextTicket stage) ∈ next.callers)
      (calls : ∀ notice ∈ notices, ∃ call, notice = .called caller.id call)
  /-- It starts a load that ends at once. -/
  | passes (ending : Ending ρ) (told : caller.phase = .told none)
      (opened : flight.Opens loads happening caller.id caller.key) (gone : next.Gone caller.id)
      (freed : ∀ record ∈ next.records, record.1 ≠ caller.key)
      (ended : .ended caller.id caller.key ending ∈ notices)
  /-- Its load ends. -/
  | concludes (ticket : Nat) (leads : caller.phase.leads ticket) (ending : Ending ρ)
      (gone : next.Gone caller.id) (freed : ∀ record ∈ next.records, record.1 ≠ caller.key)
      (ended : .ended caller.id caller.key ending ∈ notices)
  /-- It ends with the result that it was told. -/
  | receives (result : ρ) (told : caller.phase = .told (some result))
      (gone : next.Gone caller.id)
      (only : notices = [.ended caller.id caller.key (.returned result)])
  /-- It does not lead, and is cancelled. -/
  | withdraws (follows : caller.phase.isLeading = false) (gone : next.Gone caller.id)
      (only : notices = [.ended caller.id caller.key .cancelled])
      (cancelled : (happening = .event (.cancelWaiter caller.key) ∧ caller.phase.isWaiting) ∨
        happening = .withdraw caller.id)

variable {loads : Loads ω κ σ γ ρ} {act : ω → α → ω} {flight next base : Flight ω κ σ ρ}
  {happening : Happening α κ} {notices : List (Notice γ ρ)} {id : Nat} {key : String} {plan : κ}

namespace Entrant

/-- A caller of the flight stays in the flight that is entered, or enters. -/
theorem stays_or_enters (entrant : Entrant loads flight happening id key plan base)
    (sound : flight.Sound) {caller : Caller κ σ ρ} (present : caller ∈ flight.callers) :
    (caller ∈ base.callers ∧ caller.id ≠ id) ∨
      (caller.phase = .told none ∧ caller.id = id ∧ caller.key = key ∧ caller.plan = plan) := by
  cases entrant with
  | fresh key plan missed =>
      exact .inl ⟨present, Nat.ne_of_lt (sound.callersNumbered caller present)⟩
  | woken woken wokenPresent told =>
      by_cases same : caller.id = woken.id
      · obtain rfl := sound.sameCaller present wokenPresent same
        exact .inr ⟨told, rfl, rfl, rfl⟩
      · exact .inl ⟨mem_callers_remove.mpr ⟨present, same⟩, same⟩

/-- The flight that is entered has no other callers. -/
theorem mem_of_mem_base (entrant : Entrant loads flight happening id key plan base)
    {caller : Caller κ σ ρ} (present : caller ∈ base.callers) : caller ∈ flight.callers := by
  cases entrant with
  | fresh key plan missed => exact present
  | woken woken wokenPresent told => exact (mem_callers_remove.mp present).1

/-- Who enters has just come, or is a caller of the flight. -/
theorem numbered (entrant : Entrant loads flight happening id key plan base) :
    (id = flight.nextCaller ∧ base.nextCaller = flight.nextCaller + 1) ∨
      (base.nextCaller = flight.nextCaller ∧
        ∃ caller ∈ flight.callers, caller.id = id ∧ caller.key = key ∧ caller.plan = plan ∧
          caller.phase = .told none) := by
  cases entrant with
  | fresh key plan missed => exact .inl ⟨rfl, rfl⟩
  | woken woken wokenPresent told =>
      exact .inr ⟨rfl, woken, wokenPresent, rfl, rfl, rfl, told⟩

/-- One caller enters at a time. -/
theorem unique {otherId : Nat} {otherKey : String} {otherPlan : κ} {otherBase : Flight ω κ σ ρ}
    (entrant : Entrant loads flight happening id key plan base)
    (other : Entrant loads flight happening otherId otherKey otherPlan otherBase)
    (sound : flight.Sound) : id = otherId ∧ key = otherKey := by
  cases entrant with
  | fresh key plan missed =>
      cases other
      exact ⟨rfl, rfl⟩
  | woken caller present told =>
      generalize isWake : Happening.wake caller.id = happening at other
      cases other with
      | fresh otherKey otherPlan missed => cases isWake
      | woken otherCaller otherPresent otherTold =>
          obtain rfl := sound.sameCaller present otherPresent (Happening.wake.inj isWake)
          exact ⟨rfl, rfl⟩

/-- Nobody enters when a call ends. -/
theorem ne_finish (entrant : Entrant loads flight happening id key plan base)
    (otherKey : String) (outcome : Outcome) : happening ≠ .event (.finish otherKey outcome) := by
  cases entrant <;> nofun

theorem records_eq (entrant : Entrant loads flight happening id key plan base) :
    base.records = flight.records := by
  cases entrant <;> rfl

theorem nextTicket_eq (entrant : Entrant loads flight happening id key plan base) :
    base.nextTicket = flight.nextTicket := by
  cases entrant <;> rfl

/-- Who enters while the key has no record starts a load. -/
theorem opens (entrant : Entrant loads flight happening id key plan base)
    (free : ∀ record ∈ base.records, record.1 ≠ key) : flight.Opens loads happening id key :=
  ⟨⟨plan, base, entrant⟩, entrant.records_eq ▸ free⟩

/-- What happens is that the caller enters. -/
theorem happen_eq (act : ω → α → ω)
    (entrant : Entrant loads flight happening id key plan base) (sound : flight.Sound) :
    flight.happen loads act happening = base.enter loads id key plan := by
  cases entrant with
  | fresh key plan missed => rw [happen, apply, ask, missed]
  | woken woken wokenPresent told =>
      rw [sound.happen_wake loads act wokenPresent (by rw [told]; rfl), wake, told]

/-- Who enters while the key has a record waits, unseen. -/
theorem happen_waiting (act : ω → α → ω)
    (entrant : Entrant loads flight happening id key plan base) (sound : flight.Sound)
    {ticket : Nat} (found : (key, ticket) ∈ flight.records) :
    flight.happen loads act happening = (base.add ⟨id, key, plan, .waiting ticket⟩, []) := by
  have lookedUp : base.records.lookup key = some ticket := by
    rw [entrant.records_eq]
    exact sound.lookup_eq_some_iff.mpr found
  rw [entrant.happen_eq act sound, enter_waiting lookedUp]

end Entrant

/-! ## Notices -/

@[simp] theorem caller_called {call : γ} : (Notice.called id call : Notice γ ρ).caller = id := rfl

@[simp] theorem caller_ended {ending : Ending ρ} :
    (Notice.ended id key ending : Notice γ ρ).caller = id := rfl

/-- Calls are of the caller whose load makes them. -/
theorem of_mem_calls {calls : List γ} {notice : Notice γ ρ}
    (mem : notice ∈ calls.map (Notice.called id)) : ∃ call, notice = .called id call := by
  obtain ⟨call, _, rfl⟩ := List.mem_map.mp mem
  exact ⟨call, rfl⟩

/-- A load that ends is seen to make calls and to end. -/
theorem of_mem_calls_end {calls : List γ} {ending : Ending ρ} {notice : Notice γ ρ}
    (mem : notice ∈ calls.map (Notice.called id) ++ [.ended id key ending]) :
    (∃ call, notice = .called id call) ∨ notice = .ended id key ending := by
  rcases List.mem_append.mp mem with called | ended
  · exact .inl (of_mem_calls called)
  · exact .inr (List.mem_singleton.mp ended)

/-- A load that ends is seen of nobody but its leader. -/
theorem caller_of_mem_calls_end {calls : List γ} {ending : Ending ρ} {notice : Notice γ ρ}
    (mem : notice ∈ calls.map (Notice.called id) ++ [.ended id key ending]) :
    notice.caller = id := by
  rcases of_mem_calls_end mem with ⟨call, rfl⟩ | rfl <;> rfl

/-- The calls of a load are seen of nobody else. -/
theorem silent_of_calls {calls : List γ} {other : Nat} (differs : other ≠ id) :
    ∀ notice ∈ calls.map (Notice.called id : γ → Notice γ ρ), notice.caller ≠ other := by
  intro notice mem
  obtain ⟨call, rfl⟩ := of_mem_calls mem
  exact Ne.symm differs

/-- A load that ends is seen of nobody else. -/
theorem silent_of_calls_end (calls : List γ) {ending : Ending ρ} {other : Nat}
    (differs : other ≠ id) :
    ∀ notice ∈ calls.map (Notice.called id) ++ [.ended id key ending], notice.caller ≠ other := by
  intro notice mem
  rw [caller_of_mem_calls_end mem]
  exact Ne.symm differs

/-! ## Loads that start -/

/-- A load that starts with the next ticket is blocked, or ends at once. -/
theorem Opens.happen_cases (act : ω → α → ω) (opened : flight.Opens loads happening id key)
    (sound : flight.Sound) :
    ∃ plan base, Entrant loads flight happening id key plan base ∧
      (flight.happen loads act happening).1.nextTicket = flight.nextTicket + 1 ∧
      ∃ world calls progress, loads.start base.world key plan = (world, calls, progress) ∧
        (flight.happen loads act happening).1.world = world ∧
        ((∃ stage, progress = .blocked stage ∧
            ⟨id, key, plan, .leading flight.nextTicket stage⟩ ∈
              (flight.happen loads act happening).1.callers ∧
            (flight.happen loads act happening).2 = calls.map (.called id)) ∨
          ∃ ending, progress.ending? = some ending ∧
            (flight.happen loads act happening).1.Gone id ∧
            (flight.happen loads act happening).1.records = flight.records ∧
            (flight.happen loads act happening).2 =
              calls.map (.called id) ++ [.ended id key ending]) := by
  obtain ⟨⟨plan, base, entrant⟩, free⟩ := opened
  have missing : base.records.lookup key = none := by
    rw [entrant.records_eq]
    refine List.lookup_eq_none_iff.mpr fun record found => ?_
    simpa using Ne.symm (free record found)
  obtain ⟨⟨world, calls, progress⟩, started⟩ :
      ∃ pass, loads.start base.world key plan = pass := ⟨_, rfl⟩
  obtain ⟨baseSound, numbered, new⟩ := sound.entrant entrant
  refine ⟨plan, base, entrant, ?_⟩
  rw [entrant.happen_eq act sound, ← entrant.nextTicket_eq, ← entrant.records_eq]
  cases ends : progress.ending? with
  | none =>
      obtain ⟨stage, rfl⟩ := Progress.ending?_eq_none.mp ends
      rw [enter_blocked missing started]
      exact ⟨rfl, world, calls, _, started, rfl, .inl ⟨stage, rfl,
        List.mem_append_right _ (List.mem_singleton_self _), rfl⟩⟩
  | some ending =>
      rw [enter_ended missing baseSound.waiting_ne_new started ends]
      exact ⟨rfl, world, calls, progress, started, rfl,
        .inr ⟨ending, ends, ⟨numbered, new⟩, rfl, rfl⟩⟩

/-- If somebody ends when a load starts, it is who started it, and there is no
new record. -/
theorem Opens.ended (act : ω → α → ω) (opened : flight.Opens loads happening id key)
    (sound : flight.Sound) {other : Nat} {otherKey : String} {ending : Ending ρ}
    (mem : .ended other otherKey ending ∈ (flight.happen loads act happening).2) :
    other = id ∧ otherKey = key ∧
      (flight.happen loads act happening).1.records = flight.records := by
  obtain ⟨plan, base, _, _, world, calls, progress, _, _,
    ⟨stage, _, _, only⟩ | ⟨ownEnding, _, _, kept, only⟩⟩ := opened.happen_cases act sound
  · rw [only] at mem
    obtain ⟨call, isCall⟩ := of_mem_calls mem
    cases isCall
  · rw [only] at mem
    rcases of_mem_calls_end mem with ⟨call, isCall⟩ | isEnd
    · cases isCall
    · cases isEnd
      exact ⟨rfl, rfl, kept⟩

/-! ## The fate of a caller -/

/-- The load of a leader ends: the leader is gone. -/
theorem gone_of_conclusion (sound : flight.Sound) {leader : Caller κ σ ρ}
    (leading : leader ∈ flight.callers) (ticket : Nat) (world : ω) (result : Option ρ) :
    (Flight.release { flight.remove leader.id with world := world } leader.key ticket
      result).Gone leader.id := by
  refine ⟨sound.callersNumbered leader leading, ?_⟩
  intro after stays
  obtain ⟨before, kept, rfl⟩ := mem_callers_release.mp stays
  exact (mem_callers_remove.mp kept).2

/-- The load of a leader ends: others who do not wait stay. -/
theorem stays_of_conclusion {leader other : Caller κ σ ρ} (present : other ∈ flight.callers)
    (notWaiting : ∀ own, other.phase ≠ .waiting own) (differs : other.id ≠ leader.id)
    (ticket : Nat) (world : ω) (result : Option ρ) :
    other ∈ (Flight.release { flight.remove leader.id with world := world } leader.key ticket
      result).callers := by
  refine mem_callers_release.mpr ⟨other, mem_callers_remove.mpr ⟨present, differs⟩, ?_⟩
  rcases other.phase.tell_cases ticket result with ⟨waits, _⟩ | ⟨_, same⟩
  · exact absurd waits (notWaiting ticket)
  · rw [Caller.tell, same]

/-- The load of a leader ends: the leader goes, and the others stay or learn
about it. -/
theorem fate_of_conclusion (sound : flight.Sound) {leader caller : Caller κ σ ρ}
    (leading : leader ∈ flight.callers) {ticket : Nat} (leads : leader.phase.leads ticket)
    (world : ω) (calls : List γ) (ending : Ending ρ) (present : caller ∈ flight.callers) :
    Fate loads flight happening
      (Flight.release { flight.remove leader.id with world := world } leader.key ticket
        ending.result?)
      (calls.map (.called leader.id) ++ [.ended leader.id leader.key ending]) caller := by
  by_cases isLeader : caller.id = leader.id
  · obtain rfl := sound.sameCaller present leading isLeader
    exact .concludes ticket leads ending (gone_of_conclusion sound present ticket world _)
      (fun record found => (mem_records_release.mp found).2) (by simp)
  · have silent : ∀ notice ∈ calls.map (Notice.called leader.id) ++
        [Notice.ended leader.id leader.key ending], notice.caller ≠ caller.id :=
      silent_of_calls_end calls isLeader
    have stays : caller.tell ticket ending.result? ∈
        (Flight.release { flight.remove leader.id with world := world } leader.key ticket
          ending.result?).callers :=
      mem_callers_release.mpr ⟨caller, mem_callers_remove.mpr ⟨present, isLeader⟩, rfl⟩
    rcases caller.phase.tell_cases ticket ending.result? with ⟨waits, told⟩ | ⟨_, same⟩
    · rw [Caller.tell, told] at stays
      exact .learns ticket waits leader leading leads ending (by simp) stays silent
    · rw [Caller.tell, same] at stays
      exact .stays stays silent

/-- Every caller of a flight has one of the fates. -/
theorem Effect.fate (effect : Effect loads act flight happening next notices)
    (sound : flight.Sound) {caller : Caller κ σ ρ} (present : caller ∈ flight.callers) :
    Fate loads flight happening next notices caller := by
  cases effect with
  | idle happening moot => exact .stays present (by simp)
  | acted change => exact .stays present (by simp)
  | answered key plan result greeted =>
      have isOld := Nat.ne_of_lt (sound.callersNumbered caller present)
      exact .stays present (silent_of_calls_end [] isOld)
  | joined entrant ticket found =>
      rcases entrant.stays_or_enters sound present with ⟨stays, _⟩ | ⟨told, rfl, rfl, rfl⟩
      · exact .stays (mem_callers_add.mpr (.inl stays)) (by simp)
      · exact .joins ticket told (entrant.records_eq ▸ found) (mem_callers_add.mpr (.inr rfl)) rfl
  | opened entrant free world calls stage started =>
      rcases entrant.stays_or_enters sound present with ⟨stays, differs⟩ | ⟨told, rfl, rfl, rfl⟩
      · exact .stays (List.mem_append_left _ stays) (silent_of_calls differs)
      · refine .opens stage told (entrant.opens free) (List.mem_append_right _ ?_)
          fun notice mem => of_mem_calls mem
        rw [← entrant.nextTicket_eq]
        exact List.mem_singleton_self _
  | passed entrant free world calls progress ending started ends =>
      rcases entrant.stays_or_enters sound present with ⟨stays, differs⟩ | ⟨told, rfl, rfl, rfl⟩
      · exact .stays stays (silent_of_calls_end calls differs)
      · obtain ⟨_, numbered, new⟩ := sound.entrant entrant
        exact .passes ending told (entrant.opens free) ⟨numbered, new⟩ free (by simp)
  | advanced leader leading ticket stage leads outcome world calls later resumed =>
      by_cases isLeader : caller.id = leader.id
      · obtain rfl := sound.sameCaller present leading isLeader
        exact .proceeds ticket stage later leads (mem_callers_add.mpr (.inr rfl))
          fun notice mem => of_mem_calls mem
      · exact .stays (mem_callers_add.mpr (.inl (mem_callers_remove.mpr ⟨present, isLeader⟩)))
          (silent_of_calls isLeader)
  | concluded leader leading ticket stage leads outcome world calls progress ending resumed ends =>
      exact fate_of_conclusion sound leading ⟨stage, leads⟩ world calls ending present
  | abandoned leader leading ticket stage leads =>
      exact fate_of_conclusion sound leading ⟨stage, leads⟩ flight.world [] .cancelled present
  | shared other otherPresent result told =>
      by_cases same : caller.id = other.id
      · obtain rfl := sound.sameCaller present otherPresent same
        exact .receives result told ⟨sound.callersNumbered caller present,
          fun after stays => (mem_callers_remove.mp stays).2⟩ rfl
      · exact .stays (mem_callers_remove.mpr ⟨present, same⟩) (silent_of_calls_end [] same)
  | withdrawn happening other otherPresent follows cancelled =>
      by_cases same : caller.id = other.id
      · obtain rfl := sound.sameCaller present otherPresent same
        exact .withdraws follows ⟨sound.callersNumbered caller present,
          fun after stays => (mem_callers_remove.mp stays).2⟩ rfl cancelled
      · exact .stays (mem_callers_remove.mpr ⟨present, same⟩) (silent_of_calls_end [] same)

/-! ## Where callers and notices come from -/

namespace Effect

/-- Numbers are used up, one at a time. -/
theorem nextCaller_le (effect : Effect loads act flight happening next notices) :
    flight.nextCaller ≤ next.nextCaller := by
  have entered : ∀ {id key plan base}, Entrant loads flight happening id key plan base →
      flight.nextCaller ≤ base.nextCaller := by
    intro id key plan base entrant
    rcases entrant.numbered with ⟨_, grown⟩ | ⟨same, _⟩ <;> omega
  cases effect with
  | answered key plan result greeted => exact Nat.le_succ _
  | joined entrant ticket found => exact (entered entrant :)
  | opened entrant free world calls stage started => exact (entered entrant :)
  | passed entrant free world calls progress ending started ends => exact (entered entrant :)
  | _ => exact Nat.le_refl _

/-- Tickets are used up. -/
theorem nextTicket_le (effect : Effect loads act flight happening next notices) :
    flight.nextTicket ≤ next.nextTicket := by
  cases effect with
  | joined entrant ticket found => exact Nat.le_of_eq entrant.nextTicket_eq.symm
  | opened entrant free world calls stage started =>
      exact Nat.le_succ_of_le (Nat.le_of_eq entrant.nextTicket_eq.symm)
  | passed entrant free world calls progress ending started ends =>
      exact Nat.le_succ_of_le (Nat.le_of_eq entrant.nextTicket_eq.symm)
  | _ => exact Nat.le_refl _

/-- A caller of the next flight is one of the flight before, or it has just come.
Then it has joined those who wait for a load, or has started one. -/
theorem origin (effect : Effect loads act flight happening next notices)
    {after : Caller κ σ ρ} (present : after ∈ next.callers) :
    (∃ before ∈ flight.callers,
        before.id = after.id ∧ before.key = after.key ∧ before.plan = after.plan) ∨
      (after.id = flight.nextCaller ∧ flight.nextCaller < next.nextCaller ∧
        (∃ base, Entrant loads flight happening after.id after.key after.plan base) ∧
        ((∃ ticket, after.phase = .waiting ticket ∧ (after.key, ticket) ∈ flight.records ∧
            notices = []) ∨
          ∃ stage, after.phase = .leading flight.nextTicket stage ∧
            flight.Opens loads happening after.id after.key ∧
            ∀ notice ∈ notices, ∃ call, notice = .called after.id call)) := by
  have old : after ∈ flight.callers → ∃ before ∈ flight.callers,
      before.id = after.id ∧ before.key = after.key ∧ before.plan = after.plan :=
    fun stays => ⟨after, stays, rfl, rfl, rfl⟩
  cases effect with
  | idle happening moot => exact .inl (old present)
  | acted change => exact .inl (old present)
  | answered key plan result greeted => exact .inl (old present)
  | joined entrant ticket found =>
      rcases mem_callers_add.mp present with stays | rfl
      · exact .inl (old (entrant.mem_of_mem_base stays))
      · rcases entrant.numbered with
          ⟨isNew, grown⟩ | ⟨_, before, beforePresent, sameId, sameKey, samePlan, _⟩
        · exact .inr ⟨isNew, by rw [nextCaller_add]; omega, ⟨_, entrant⟩,
            .inl ⟨ticket, rfl, entrant.records_eq ▸ found, rfl⟩⟩
        · exact .inl ⟨before, beforePresent, sameId, sameKey, samePlan⟩
  | opened entrant free world calls stage started =>
      rcases List.mem_append.mp present with stays | added
      · exact .inl (old (entrant.mem_of_mem_base stays))
      · obtain rfl := List.mem_singleton.mp added
        rcases entrant.numbered with
          ⟨isNew, grown⟩ | ⟨_, before, beforePresent, sameId, sameKey, samePlan, _⟩
        · exact .inr ⟨isNew, by dsimp only; omega, ⟨_, entrant⟩,
            .inr ⟨stage, by rw [entrant.nextTicket_eq], entrant.opens free,
              fun notice mem => of_mem_calls mem⟩⟩
        · exact .inl ⟨before, beforePresent, sameId, sameKey, samePlan⟩
  | passed entrant free world calls progress ending started ends =>
      exact .inl (old (entrant.mem_of_mem_base present))
  | advanced leader leading ticket stage leads outcome world calls later resumed =>
      rcases mem_callers_add.mp present with stays | rfl
      · exact .inl (old (mem_callers_remove.mp stays).1)
      · exact .inl ⟨leader, leading, rfl, rfl, rfl⟩
  | concluded leader leading ticket stage leads outcome world calls progress ending resumed ends =>
      obtain ⟨before, kept, rfl⟩ := mem_callers_release.mp present
      exact .inl ⟨before, (mem_callers_remove.mp kept).1, rfl, rfl, rfl⟩
  | abandoned leader leading ticket stage leads =>
      obtain ⟨before, kept, rfl⟩ := mem_callers_release.mp present
      exact .inl ⟨before, (mem_callers_remove.mp kept).1, rfl, rfl, rfl⟩
  | shared caller callerPresent result told =>
      exact .inl (old (mem_callers_remove.mp present).1)
  | withdrawn happening caller callerPresent follows cancelled =>
      exact .inl (old (mem_callers_remove.mp present).1)

/-- Whoever is seen is a caller of the flight or has just come. -/
theorem noticed (effect : Effect loads act flight happening next notices)
    {notice : Notice γ ρ} (mem : notice ∈ notices) :
    (∃ caller ∈ flight.callers, caller.id = notice.caller) ∨
      (notice.caller = flight.nextCaller ∧ flight.nextCaller < next.nextCaller) := by
  have entered : ∀ {id key plan base}, Entrant loads flight happening id key plan base →
      base.nextCaller = next.nextCaller → notice.caller = id →
      (∃ caller ∈ flight.callers, caller.id = notice.caller) ∨
        (notice.caller = flight.nextCaller ∧ flight.nextCaller < next.nextCaller) := by
    intro id key plan base entrant sameNumbers isEntrant
    rcases entrant.numbered with ⟨isNew, grown⟩ | ⟨_, before, beforePresent, sameId, _⟩
    · exact .inr ⟨isEntrant.trans isNew, by omega⟩
    · exact .inl ⟨before, beforePresent, sameId.trans isEntrant.symm⟩
  cases effect with
  | idle happening moot => cases mem
  | acted change => cases mem
  | answered key plan result greeted =>
      rw [List.mem_singleton.mp mem]
      exact .inr ⟨rfl, Nat.lt_succ_self _⟩
  | joined entrant ticket found => cases mem
  | opened entrant free world calls stage started =>
      obtain ⟨call, rfl⟩ := of_mem_calls mem
      exact entered entrant rfl rfl
  | passed entrant free world calls progress ending started ends =>
      exact entered entrant rfl (caller_of_mem_calls_end mem)
  | advanced leader leading ticket stage leads outcome world calls later resumed =>
      obtain ⟨call, rfl⟩ := of_mem_calls mem
      exact .inl ⟨leader, leading, rfl⟩
  | concluded leader leading ticket stage leads outcome world calls progress ending resumed ends =>
      exact .inl ⟨leader, leading, (caller_of_mem_calls_end mem).symm⟩
  | abandoned leader leading ticket stage leads =>
      rw [List.mem_singleton.mp mem]
      exact .inl ⟨leader, leading, rfl⟩
  | shared caller callerPresent result told =>
      rw [List.mem_singleton.mp mem]
      exact .inl ⟨caller, callerPresent, rfl⟩
  | withdrawn happening caller callerPresent follows cancelled =>
      rw [List.mem_singleton.mp mem]
      exact .inl ⟨caller, callerPresent, rfl⟩

/-- Who is gone stays gone and is not seen. -/
theorem gone (effect : Effect loads act flight happening next notices) (gone : flight.Gone id) :
    next.Gone id ∧ ∀ notice ∈ notices, notice.caller ≠ id := by
  obtain ⟨numbered, absent⟩ := gone
  refine ⟨⟨Nat.lt_of_lt_of_le numbered effect.nextCaller_le, ?_⟩, ?_⟩
  · rintro after present rfl
    rcases effect.origin present with ⟨before, beforePresent, same, _⟩ | ⟨isNew, _⟩
    · exact absent before beforePresent same
    · exact absurd numbered (by omega)
  · rintro notice mem rfl
    rcases effect.noticed mem with ⟨before, beforePresent, same⟩ | ⟨isNew, _⟩
    · exact absent before beforePresent same
    · exact absurd numbered (by omega)

/-- All that is seen is of one caller: the calls of its load, and that it ends. -/
theorem notices_cases (effect : Effect loads act flight happening next notices) :
    ∃ (id : Nat) (calls : List γ), notices = calls.map (.called id) ∨
      ∃ key ending, notices = calls.map (.called id) ++ [.ended id key ending] := by
  cases effect with
  | idle happening moot => exact ⟨0, [], .inl rfl⟩
  | acted change => exact ⟨0, [], .inl rfl⟩
  | answered key plan result greeted => exact ⟨_, [], .inr ⟨key, _, rfl⟩⟩
  | joined entrant ticket found => exact ⟨0, [], .inl rfl⟩
  | opened entrant free world calls stage started => exact ⟨_, calls, .inl rfl⟩
  | passed entrant free world calls progress ending started ends =>
      exact ⟨_, calls, .inr ⟨_, ending, rfl⟩⟩
  | advanced leader leading ticket stage leads outcome world calls later resumed =>
      exact ⟨_, calls, .inl rfl⟩
  | concluded leader leading ticket stage leads outcome world calls progress ending resumed ends =>
      exact ⟨_, calls, .inr ⟨_, ending, rfl⟩⟩
  | abandoned leader leading ticket stage leads => exact ⟨_, [], .inr ⟨_, _, rfl⟩⟩
  | shared caller callerPresent result told => exact ⟨_, [], .inr ⟨_, _, rfl⟩⟩
  | withdrawn happening caller callerPresent follows cancelled =>
      exact ⟨_, [], .inr ⟨_, _, rfl⟩⟩

/-- At most one caller is seen. -/
theorem noticed_once (effect : Effect loads act flight happening next notices)
    {notice other : Notice γ ρ} (mem : notice ∈ notices) (otherMem : other ∈ notices) :
    notice.caller = other.caller := by
  obtain ⟨seen, calls, rfl | ⟨key, ending, rfl⟩⟩ := effect.notices_cases
  · obtain ⟨call, rfl⟩ := of_mem_calls mem
    obtain ⟨otherCall, rfl⟩ := of_mem_calls otherMem
    rfl
  · rw [caller_of_mem_calls_end mem, caller_of_mem_calls_end otherMem]

/-- At most one caller ends. -/
theorem ended_once (effect : Effect loads act flight happening next notices)
    {otherId : Nat} {otherKey : String} {ending otherEnding : Ending ρ}
    (mem : .ended id key ending ∈ notices)
    (otherMem : .ended otherId otherKey otherEnding ∈ notices) :
    id = otherId ∧ key = otherKey ∧ ending = otherEnding := by
  obtain ⟨seen, calls, rfl | ⟨lastKey, last, rfl⟩⟩ := effect.notices_cases
  · obtain ⟨call, isCall⟩ := of_mem_calls mem
    cases isCall
  · rcases of_mem_calls_end mem with ⟨call, isCall⟩ | isEnd
    · cases isCall
    · rcases of_mem_calls_end otherMem with ⟨call, isCall⟩ | otherIsEnd
      · cases isCall
      · exact Notice.ended.inj (isEnd.trans otherIsEnd.symm)

/-- How a caller comes to end: it is new and answered at once, its new load ends
at once, it leads a load, it was told a result, or it is cancelled. -/
theorem ended (effect : Effect loads act flight happening next notices) {ending : Ending ρ}
    (mem : .ended id key ending ∈ notices) :
    (id = flight.nextCaller ∧ ∃ plan result, happening = .event (.start key plan) ∧
        (loads.greet flight.world key plan).2 = some result ∧ ending = .returned result ∧
        next.records = flight.records) ∨
      flight.Opens loads happening id key ∨
      ∃ caller ∈ flight.callers, caller.id = id ∧ caller.key = key ∧
        (caller.phase.isLeading ∨
          (∃ result, caller.phase = .told (some result) ∧ ending = .returned result) ∨
          (caller.phase.isLeading = false ∧ ending = .cancelled)) := by
  cases effect with
  | idle happening moot => cases mem
  | acted change => cases mem
  | answered key plan result greeted =>
      cases List.mem_singleton.mp mem
      exact .inl ⟨rfl, plan, result, rfl, greeted, rfl, rfl⟩
  | joined entrant ticket found => cases mem
  | opened entrant free world calls stage started =>
      obtain ⟨call, isCall⟩ := of_mem_calls mem
      cases isCall
  | passed entrant free world calls progress ending started ends =>
      rcases of_mem_calls_end mem with ⟨call, isCall⟩ | isEnd
      · cases isCall
      · cases isEnd
        exact .inr (.inl (entrant.opens free))
  | advanced leader leading ticket stage leads outcome world calls later resumed =>
      obtain ⟨call, isCall⟩ := of_mem_calls mem
      cases isCall
  | concluded leader leading ticket stage leads outcome world calls progress ending resumed ends =>
      rcases of_mem_calls_end mem with ⟨call, isCall⟩ | isEnd
      · cases isCall
      · cases isEnd
        exact .inr (.inr ⟨leader, leading, rfl, rfl,
          .inl (Phase.isLeading_iff.mpr ⟨ticket, stage, leads⟩)⟩)
  | abandoned leader leading ticket stage leads =>
      cases List.mem_singleton.mp mem
      exact .inr (.inr ⟨leader, leading, rfl, rfl,
        .inl (Phase.isLeading_iff.mpr ⟨ticket, stage, leads⟩)⟩)
  | shared caller callerPresent result told =>
      cases List.mem_singleton.mp mem
      exact .inr (.inr ⟨caller, callerPresent, rfl, rfl, .inr (.inl ⟨result, told, rfl⟩)⟩)
  | withdrawn happening caller callerPresent follows cancelled =>
      cases List.mem_singleton.mp mem
      exact .inr (.inr ⟨caller, callerPresent, rfl, rfl, .inr (.inr ⟨follows, rfl⟩)⟩)

/-- Who ends cancelled was cancelled: as the leader of its key, as one who waits
for it, or by its number. -/
theorem cancelled (effect : Effect loads act flight happening next notices)
    (mem : .ended id key .cancelled ∈ notices) :
    (happening = .event (.cancelLeader key) ∧
        ∃ leader ∈ flight.callers, leader.id = id ∧ leader.key = key ∧ leader.phase.isLeading) ∨
      happening = .event (.cancelWaiter key) ∨ happening = .withdraw id := by
  cases effect with
  | idle happening moot => cases mem
  | acted change => cases mem
  | answered key plan result greeted => cases List.mem_singleton.mp mem
  | joined entrant ticket found => cases mem
  | opened entrant free world calls stage started =>
      obtain ⟨call, isCall⟩ := of_mem_calls mem
      cases isCall
  | passed entrant free world calls progress ending started ends =>
      rcases of_mem_calls_end mem with ⟨call, isCall⟩ | isEnd
      · cases isCall
      · cases isEnd
        exact absurd ends Progress.ending?_ne_cancelled
  | advanced leader leading ticket stage leads outcome world calls later resumed =>
      obtain ⟨call, isCall⟩ := of_mem_calls mem
      cases isCall
  | concluded leader leading ticket stage leads outcome world calls progress ending resumed ends =>
      rcases of_mem_calls_end mem with ⟨call, isCall⟩ | isEnd
      · cases isCall
      · cases isEnd
        exact absurd ends Progress.ending?_ne_cancelled
  | abandoned leader leading ticket stage leads =>
      cases List.mem_singleton.mp mem
      exact .inl ⟨rfl, leader, leading, rfl, rfl, Phase.isLeading_iff.mpr ⟨ticket, stage, leads⟩⟩
  | shared caller callerPresent result told => cases List.mem_singleton.mp mem
  | withdrawn happening caller callerPresent follows cancelled =>
      cases List.mem_singleton.mp mem
      rcases cancelled with ⟨isCancel, _⟩ | isWithdraw
      · exact .inr (.inl isCancel)
      · exact .inr (.inr isWithdraw)

/-- When a caller ends, all others stay. -/
theorem stays_of_ended (effect : Effect loads act flight happening next notices)
    (sound : flight.Sound) {caller : Caller κ σ ρ} (present : caller ∈ flight.callers)
    {ending : Ending ρ} (ended : .ended id key ending ∈ notices) (differs : caller.id ≠ id) :
    ∃ after ∈ next.callers,
      after.id = caller.id ∧ after.key = caller.key ∧ after.plan = caller.plan := by
  have notEnded : ∀ {own : Ending ρ}, .ended caller.id caller.key own ∉ notices :=
    fun alsoEnded => differs (effect.ended_once alsoEnded ended).1
  cases effect.fate sound present with
  | stays stays silent => exact ⟨caller, stays, rfl, rfl, rfl⟩
  | learns ticket waits leader leading leads own otherEnded told silent =>
      exact ⟨_, told, rfl, rfl, rfl⟩
  | proceeds ticket stage later leads stays calls => exact ⟨_, stays, rfl, rfl, rfl⟩
  | joins ticket told found stays silent => exact ⟨_, stays, rfl, rfl, rfl⟩
  | opens stage told opened stays calls => exact ⟨_, stays, rfl, rfl, rfl⟩
  | passes own told opened gone freed alsoEnded => exact absurd alsoEnded notEnded
  | concludes ticket leads own gone freed alsoEnded => exact absurd alsoEnded notEnded
  | receives result told gone only => exact absurd (only ▸ List.mem_singleton_self _) notEnded
  | withdraws follows gone only => exact absurd (only ▸ List.mem_singleton_self _) notEnded

/-- Only a load that starts or goes on makes calls. -/
theorem called (effect : Effect loads act flight happening next notices) {call : γ}
    (mem : .called id call ∈ notices) :
    (∃ key, flight.Opens loads happening id key) ∨
      ∃ leader ∈ flight.callers, leader.id = id ∧ leader.phase.isLeading := by
  cases effect with
  | idle happening moot => cases mem
  | acted change => cases mem
  | answered key plan result greeted => cases List.mem_singleton.mp mem
  | joined entrant ticket found => cases mem
  | opened entrant free world calls stage started =>
      obtain ⟨other, isCall⟩ := of_mem_calls mem
      cases isCall
      exact .inl ⟨_, entrant.opens free⟩
  | passed entrant free world calls progress ending started ends =>
      rcases of_mem_calls_end mem with ⟨other, isCall⟩ | isEnd
      · cases isCall
        exact .inl ⟨_, entrant.opens free⟩
      · cases isEnd
  | advanced leader leading ticket stage leads outcome world calls later resumed =>
      obtain ⟨other, isCall⟩ := of_mem_calls mem
      cases isCall
      exact .inr ⟨leader, leading, rfl, Phase.isLeading_iff.mpr ⟨ticket, stage, leads⟩⟩
  | concluded leader leading ticket stage leads outcome world calls progress ending resumed ends =>
      rcases of_mem_calls_end mem with ⟨other, isCall⟩ | isEnd
      · cases isCall
        exact .inr ⟨leader, leading, rfl, Phase.isLeading_iff.mpr ⟨ticket, stage, leads⟩⟩
      · cases isEnd
  | abandoned leader leading ticket stage leads => cases List.mem_singleton.mp mem
  | shared caller callerPresent result told => cases List.mem_singleton.mp mem
  | withdrawn happening caller callerPresent follows cancelled => cases List.mem_singleton.mp mem

/-! ## Callers that lead -/

/-- Who leads a load led it before, or has just started it. -/
theorem leader_origin (effect : Effect loads act flight happening next notices)
    (sound : flight.Sound) {after : Caller κ σ ρ} (present : after ∈ next.callers) {ticket : Nat}
    (leads : after.phase.leads ticket) :
    (∃ before ∈ flight.callers, before.id = after.id ∧ before.key = after.key ∧
        before.phase.leads ticket) ∨
      (flight.Opens loads happening after.id after.key ∧ ticket = flight.nextTicket) := by
  have nextSound := effect.sound sound
  rcases effect.origin present with ⟨before, beforePresent, sameId, sameKey, _⟩ | ⟨_, _, _, arrival⟩
  · have notGone : ¬ next.Gone before.id := fun gone => gone.2 after present sameId.symm
    have phaseOf : ∀ {phase : Phase σ ρ}, before.enter phase ∈ next.callers →
        phase.leads ticket := by
      intro phase stays
      rw [← nextSound.sameCaller stays present sameId] at leads
      exact leads
    cases effect.fate sound beforePresent with
    | stays stays silent =>
        obtain rfl := nextSound.sameCaller stays present sameId
        exact .inl ⟨before, beforePresent, rfl, rfl, leads⟩
    | proceeds own stage later leadsBefore stays =>
        obtain rfl : own = ticket := Phase.leads_leading.mp (phaseOf stays)
        exact .inl ⟨before, beforePresent, sameId, sameKey, stage, leadsBefore⟩
    | opens stage told opened stays =>
        have isNext := Phase.leads_leading.mp (phaseOf stays)
        rw [sameId, sameKey] at opened
        exact .inr ⟨opened, isNext.symm⟩
    | learns own waits leader leading otherLeads ending ended stays =>
        exact absurd (phaseOf stays) Phase.not_leads_told
    | joins own told found stays => exact absurd (phaseOf stays) Phase.not_leads_waiting
    | passes ending told opened gone => exact absurd gone notGone
    | concludes own otherLeads ending gone => exact absurd gone notGone
    | receives own told gone => exact absurd gone notGone
    | withdraws follows gone => exact absurd gone notGone
  · rcases arrival with ⟨own, waits, _⟩ | ⟨stage, leading, opened, _⟩
    · rw [waits] at leads
      exact absurd leads Phase.not_leads_waiting
    · rw [leading] at leads
      exact .inr ⟨opened, (Phase.leads_leading.mp leads).symm⟩

/-- When the call ends that the load of a leader waits for, the load goes on. -/
theorem fate_of_finished (effect : Effect loads act flight happening next notices)
    (sound : flight.Sound) {leader : Caller κ σ ρ} (present : leader ∈ flight.callers)
    {ticket : Nat} {stage : σ} (leads : leader.phase = .leading ticket stage) {outcome : Outcome}
    (finished : happening = .event (.finish leader.key outcome)) :
    ∃ world calls progress,
      loads.resume flight.world leader.key leader.plan stage outcome = (world, calls, progress) ∧
        next.world = world ∧
        ((∃ later, progress = .blocked later ∧
            leader.enter (.leading ticket later) ∈ next.callers ∧
            notices = calls.map (.called leader.id)) ∨
          ∃ ending, progress.ending? = some ending ∧ next.Gone leader.id ∧
            notices = calls.map (.called leader.id) ++ [.ended leader.id leader.key ending]) := by
  have leading : leader.phase.isLeading := Phase.isLeading_iff.mpr ⟨ticket, stage, leads⟩
  cases effect with
  | idle happening moot =>
      rw [finished] at moot
      rw [moot leader present rfl] at leading
      cases leading
  | acted change => cases finished
  | answered key plan result greeted => cases finished
  | joined entrant own found => exact absurd finished (entrant.ne_finish _ _)
  | opened entrant free world calls otherStage started =>
      exact absurd finished (entrant.ne_finish _ _)
  | passed entrant free world calls progress ending started ends =>
      exact absurd finished (entrant.ne_finish _ _)
  | advanced other otherPresent own otherStage otherLeads otherOutcome world calls later resumed =>
      obtain ⟨sameKey, rfl⟩ := Event.finish.inj (Happening.event.inj finished)
      obtain rfl := sound.sameLeader otherPresent present
        (Phase.isLeading_iff.mpr ⟨own, otherStage, otherLeads⟩) leading sameKey
      rw [leads] at otherLeads
      cases otherLeads
      exact ⟨world, calls, _, resumed, rfl, .inl ⟨later, rfl, mem_callers_add.mpr (.inr rfl), rfl⟩⟩
  | concluded other otherPresent own otherStage otherLeads otherOutcome world calls progress ending
      resumed ends =>
      obtain ⟨sameKey, rfl⟩ := Event.finish.inj (Happening.event.inj finished)
      obtain rfl := sound.sameLeader otherPresent present
        (Phase.isLeading_iff.mpr ⟨own, otherStage, otherLeads⟩) leading sameKey
      rw [leads] at otherLeads
      cases otherLeads
      exact ⟨world, calls, progress, resumed, rfl,
        .inr ⟨ending, ends, gone_of_conclusion sound present ticket world _, rfl⟩⟩
  | abandoned other otherPresent own otherStage otherLeads => cases finished
  | shared other otherPresent result told => cases finished
  | withdrawn happening other otherPresent follows cancelled =>
      rw [finished] at cancelled
      rcases cancelled with ⟨isCancel, _⟩ | isWithdraw
      · cases isCancel
      · cases isWithdraw

/-- As long as its call does not end, a leader stays as it is, or is cancelled. -/
theorem fate_of_unfinished (effect : Effect loads act flight happening next notices)
    (sound : flight.Sound) {leader : Caller κ σ ρ} (present : leader ∈ flight.callers)
    {ticket : Nat} {stage : σ} (leads : leader.phase = .leading ticket stage)
    (unfinished : ∀ outcome, happening ≠ .event (.finish leader.key outcome)) :
    (leader ∈ next.callers ∧ ∀ notice ∈ notices, notice.caller ≠ leader.id) ∨
      (happening = .event (.cancelLeader leader.key) ∧ next.Gone leader.id ∧
        notices = [.ended leader.id leader.key .cancelled]) := by
  have staysOut : ∀ {id key plan base}, Entrant loads flight happening id key plan base →
      leader ∈ base.callers ∧ leader.id ≠ id := by
    intro id key plan base entrant
    rcases entrant.stays_or_enters sound present with stays | ⟨told, _⟩
    · exact stays
    · rw [leads] at told
      cases told
  cases effect with
  | idle happening moot => exact .inl ⟨present, by simp⟩
  | acted change => exact .inl ⟨present, by simp⟩
  | answered key plan result greeted =>
      have isOld := Nat.ne_of_lt (sound.callersNumbered leader present)
      exact .inl ⟨present, silent_of_calls_end [] isOld⟩
  | joined entrant own found =>
      exact .inl ⟨mem_callers_add.mpr (.inl (staysOut entrant).1), by simp⟩
  | opened entrant free world calls otherStage started =>
      obtain ⟨stays, differs⟩ := staysOut entrant
      exact .inl ⟨List.mem_append_left _ stays, silent_of_calls differs⟩
  | passed entrant free world calls progress ending started ends =>
      obtain ⟨stays, differs⟩ := staysOut entrant
      exact .inl ⟨stays, silent_of_calls_end calls differs⟩
  | advanced other otherPresent own otherStage otherLeads outcome world calls later resumed =>
      have differs : leader.id ≠ other.id := by
        intro same
        obtain rfl := sound.sameCaller present otherPresent same
        exact unfinished outcome rfl
      exact .inl ⟨mem_callers_add.mpr (.inl (mem_callers_remove.mpr ⟨present, differs⟩)),
        silent_of_calls differs⟩
  | concluded other otherPresent own otherStage otherLeads outcome world calls progress ending
      resumed ends =>
      have differs : leader.id ≠ other.id := by
        intro same
        obtain rfl := sound.sameCaller present otherPresent same
        exact unfinished outcome rfl
      exact .inl ⟨stays_of_conclusion present (by rw [leads]; nofun) differs own world _,
        silent_of_calls_end calls differs⟩
  | abandoned other otherPresent own otherStage otherLeads =>
      by_cases same : leader.id = other.id
      · obtain rfl := sound.sameCaller present otherPresent same
        rw [leads] at otherLeads
        cases otherLeads
        exact .inr ⟨rfl, gone_of_conclusion sound present ticket flight.world none, rfl⟩
      · exact .inl ⟨stays_of_conclusion present (by rw [leads]; nofun) same own flight.world none,
          silent_of_calls_end [] same⟩
  | shared other otherPresent result told =>
      have differs : leader.id ≠ other.id := by
        intro same
        rw [sound.sameCaller present otherPresent same, told] at leads
        cases leads
      exact .inl ⟨mem_callers_remove.mpr ⟨present, differs⟩, silent_of_calls_end [] differs⟩
  | withdrawn happening other otherPresent follows cancelled =>
      have differs : leader.id ≠ other.id := by
        intro same
        rw [← sound.sameCaller present otherPresent same, leads] at follows
        cases follows
      exact .inl ⟨mem_callers_remove.mpr ⟨present, differs⟩, silent_of_calls_end [] differs⟩

/-- What becomes of a leader: its load does not go on, or it goes on when the
call that it waits for ends, or the leader is cancelled. -/
theorem fate_of_leader (effect : Effect loads act flight happening next notices)
    (sound : flight.Sound) {leader : Caller κ σ ρ} (present : leader ∈ flight.callers)
    {ticket : Nat} {stage : σ} (leads : leader.phase = .leading ticket stage) :
    (leader ∈ next.callers ∧ (∀ notice ∈ notices, notice.caller ≠ leader.id) ∧
        ∀ outcome, happening ≠ .event (.finish leader.key outcome)) ∨
      (∃ outcome world calls progress, happening = .event (.finish leader.key outcome) ∧
        loads.resume flight.world leader.key leader.plan stage outcome = (world, calls, progress) ∧
        next.world = world ∧
        ((∃ later, progress = .blocked later ∧
            leader.enter (.leading ticket later) ∈ next.callers ∧
            notices = calls.map (.called leader.id)) ∨
          ∃ ending, progress.ending? = some ending ∧ next.Gone leader.id ∧
            notices = calls.map (.called leader.id) ++ [.ended leader.id leader.key ending])) ∨
      (happening = .event (.cancelLeader leader.key) ∧ next.Gone leader.id ∧
        notices = [.ended leader.id leader.key .cancelled]) := by
  by_cases finishes : ∃ outcome, happening = .event (.finish leader.key outcome)
  · obtain ⟨outcome, finished⟩ := finishes
    obtain ⟨world, calls, progress, goesOn⟩ := effect.fate_of_finished sound present leads finished
    exact .inr (.inl ⟨outcome, world, calls, progress, finished, goesOn⟩)
  · have unfinished : ∀ outcome, happening ≠ .event (.finish leader.key outcome) :=
      fun outcome finished => finishes ⟨outcome, finished⟩
    rcases effect.fate_of_unfinished sound present leads unfinished with ⟨stays, silent⟩ | cancelled
    · exact .inl ⟨stays, silent, unfinished⟩
    · exact .inr (.inr cancelled)

/-! ## Callers that wait or were told -/

/-- Who waits goes on waiting, learns how its load ended, or is cancelled. -/
theorem fate_of_waiting (effect : Effect loads act flight happening next notices)
    (sound : flight.Sound) {caller : Caller κ σ ρ} (present : caller ∈ flight.callers)
    {ticket : Nat} (waits : caller.phase = .waiting ticket) :
    (caller ∈ next.callers ∧ ∀ notice ∈ notices, notice.caller ≠ caller.id) ∨
      (∃ leader ∈ flight.callers, leader.phase.leads ticket ∧
        ∃ ending, .ended leader.id leader.key ending ∈ notices ∧
          caller.enter (.told ending.result?) ∈ next.callers ∧
          ∀ notice ∈ notices, notice.caller ≠ caller.id) ∨
      (next.Gone caller.id ∧ notices = [.ended caller.id caller.key .cancelled]) := by
  cases effect.fate sound present with
  | stays stays silent => exact .inl ⟨stays, silent⟩
  | learns own alsoWaits leader leading leads ending ended told silent =>
      rw [waits] at alsoWaits
      cases alsoWaits
      exact .inr (.inl ⟨leader, leading, leads, ending, ended, told, silent⟩)
  | withdraws follows gone only => exact .inr (.inr ⟨gone, only⟩)
  | proceeds own stage later leads =>
      rw [waits] at leads
      cases leads
  | concludes own leads =>
      rw [waits] at leads
      exact absurd leads Phase.not_leads_waiting
  | joins own told =>
      rw [waits] at told
      cases told
  | opens stage told =>
      rw [waits] at told
      cases told
  | passes ending told =>
      rw [waits] at told
      cases told
  | receives own told =>
      rw [waits] at told
      cases told

/-- When a leader ends, its key has no record. -/
theorem freed (effect : Effect loads act flight happening next notices) (sound : flight.Sound)
    {leader : Caller κ σ ρ} (leading : leader ∈ flight.callers) {ticket : Nat}
    (leads : leader.phase.leads ticket) {ending : Ending ρ}
    (ended : .ended leader.id leader.key ending ∈ notices) :
    ∀ record ∈ next.records, record.1 ≠ leader.key := by
  obtain ⟨stage, phase⟩ := leads
  cases effect.fate sound leading with
  | stays stays silent => exact absurd rfl (silent _ ended)
  | learns own waits other otherLeading otherLeads otherEnding otherEnded told silent =>
      exact absurd rfl (silent _ ended)
  | proceeds own before after leads stays calls =>
      obtain ⟨call, isCall⟩ := calls _ ended
      cases isCall
  | passes otherEnding told opened gone freed => exact freed
  | concludes own leads otherEnding gone freed => exact freed
  | joins own told =>
      rw [phase] at told
      cases told
  | opens own told =>
      rw [phase] at told
      cases told
  | receives own told =>
      rw [phase] at told
      cases told
  | withdraws follows =>
      rw [phase] at follows
      cases follows

/-- When a leader ends, everybody who waits for its load learns how, unseen. -/
theorem learns_of_ended (effect : Effect loads act flight happening next notices)
    (sound : flight.Sound) {leader : Caller κ σ ρ} (leading : leader ∈ flight.callers)
    {ticket : Nat} (leads : leader.phase.leads ticket) {ending : Ending ρ}
    (ended : .ended leader.id leader.key ending ∈ notices) {waiter : Caller κ σ ρ}
    (present : waiter ∈ flight.callers) (waits : waiter.phase = .waiting ticket) :
    waiter.enter (.told ending.result?) ∈ next.callers ∧
      ∀ notice ∈ notices, notice.caller ≠ waiter.id := by
  rcases effect.fate_of_waiting sound present waits with
    ⟨stays, _⟩ | ⟨other, _, _, otherEnding, otherEnded, told, silent⟩ | ⟨_, only⟩
  · have recorded := (effect.sound sound).recorded waiter stays ticket (by rw [waits]; rfl)
    have sameKey : waiter.key = leader.key :=
      sound.sameKey (sound.recorded waiter present ticket (by rw [waits]; rfl))
        (sound.recorded leader leading ticket (Phase.ticket?_of_leads leads))
    exact absurd sameKey (effect.freed sound leading leads ended _ recorded)
  · obtain ⟨_, _, rfl⟩ := effect.ended_once otherEnded ended
    exact ⟨told, silent⟩
  · rw [only] at ended
    have sameNumber : leader.id = waiter.id := (Notice.ended.inj (List.mem_singleton.mp ended)).1
    obtain rfl := sound.sameCaller leading present sameNumber
    rw [waits] at leads
    exact absurd leads Phase.not_leads_waiting

/-- Who was told a result keeps it, ends with it, or is cancelled. -/
theorem fate_of_told (effect : Effect loads act flight happening next notices)
    (sound : flight.Sound) {caller : Caller κ σ ρ} (present : caller ∈ flight.callers)
    {result : ρ} (told : caller.phase = .told (some result)) :
    (caller ∈ next.callers ∧ ∀ notice ∈ notices, notice.caller ≠ caller.id) ∨
      (next.Gone caller.id ∧ (notices = [.ended caller.id caller.key (.returned result)] ∨
        (notices = [.ended caller.id caller.key .cancelled] ∧
          happening = .withdraw caller.id))) := by
  cases effect.fate sound present with
  | stays stays silent => exact .inl ⟨stays, silent⟩
  | receives own alsoTold gone only =>
      rw [told] at alsoTold
      cases alsoTold
      exact .inr ⟨gone, .inl only⟩
  | withdraws follows gone only cancelled =>
      rcases cancelled with ⟨_, waits⟩ | withdrawn
      · rw [told] at waits
        cases waits
      · exact .inr ⟨gone, .inr ⟨only, withdrawn⟩⟩
  | learns own waits =>
      rw [told] at waits
      cases waits
  | proceeds own stage later leads =>
      rw [told] at leads
      cases leads
  | concludes own leads =>
      rw [told] at leads
      exact absurd leads Phase.not_leads_told
  | joins own toldNothing =>
      rw [told] at toldNothing
      cases toldNothing
  | opens stage toldNothing =>
      rw [told] at toldNothing
      cases toldNothing
  | passes ending toldNothing =>
      rw [told] at toldNothing
      cases toldNothing

/-- Who was told that a load gave nothing keeps it, enters again, or is cancelled. -/
theorem fate_of_toldNothing (effect : Effect loads act flight happening next notices)
    (sound : flight.Sound) {caller : Caller κ σ ρ} (present : caller ∈ flight.callers)
    (told : caller.phase = .told none) :
    (caller ∈ next.callers ∧ ∀ notice ∈ notices, notice.caller ≠ caller.id) ∨
      (∃ base, Entrant loads flight happening caller.id caller.key caller.plan base) ∨
      (next.Gone caller.id ∧ notices = [.ended caller.id caller.key .cancelled] ∧
        happening = .withdraw caller.id) := by
  by_cases enters : ∃ base,
      Entrant loads flight happening caller.id caller.key caller.plan base
  · exact .inr (.inl enters)
  -- Whoever else enters, leads or ends, this caller is in the flight after it as before.
  have stays : ∀ {id key plan base}, Entrant loads flight happening id key plan base →
      caller ∈ base.callers ∧ caller.id ≠ id := by
    intro id key plan base entrant
    rcases entrant.stays_or_enters sound present with other | ⟨_, rfl, rfl, rfl⟩
    · exact other
    · exact absurd ⟨base, entrant⟩ enters
  have differs : ∀ {other}, other ∈ flight.callers → other.phase ≠ .told none →
      caller.id ≠ other.id := by
    intro other otherPresent notTold same
    rw [← sound.sameCaller present otherPresent same, told] at notTold
    exact notTold rfl
  cases effect with
  | idle happening moot => exact .inl ⟨present, nofun⟩
  | acted change => exact .inl ⟨present, nofun⟩
  | answered key plan result greeted =>
      have isOld := Nat.ne_of_lt (sound.callersNumbered caller present)
      exact .inl ⟨present, silent_of_calls_end [] isOld⟩
  | joined entrant ticket found =>
      exact .inl ⟨mem_callers_add.mpr (.inl (stays entrant).1), nofun⟩
  | opened entrant free world calls stage started =>
      exact .inl ⟨List.mem_append_left _ (stays entrant).1, silent_of_calls (stays entrant).2⟩
  | passed entrant free world calls progress ending started ends =>
      exact .inl ⟨(stays entrant).1, silent_of_calls_end calls (stays entrant).2⟩
  | advanced leader leading ticket stage leads outcome world calls later resumed =>
      have other := differs leading (by rw [leads]; nofun)
      exact .inl ⟨mem_callers_add.mpr (.inl (mem_callers_remove.mpr ⟨present, other⟩)),
        silent_of_calls other⟩
  | concluded leader leading ticket stage leads outcome world calls progress ending resumed ends =>
      have other := differs leading (by rw [leads]; nofun)
      exact .inl ⟨stays_of_conclusion present (by rw [told]; nofun) other ticket world _,
        silent_of_calls_end calls other⟩
  | abandoned leader leading ticket stage leads =>
      have other := differs leading (by rw [leads]; nofun)
      exact .inl ⟨stays_of_conclusion present (by rw [told]; nofun) other ticket flight.world none,
        silent_of_calls_end [] other⟩
  | shared other otherPresent result otherTold =>
      have isOther := differs otherPresent (by rw [otherTold]; nofun)
      exact .inl ⟨mem_callers_remove.mpr ⟨present, isOther⟩, silent_of_calls_end [] isOther⟩
  | withdrawn happening other otherPresent follows cancelled =>
      by_cases same : caller.id = other.id
      · obtain rfl := sound.sameCaller present otherPresent same
        rcases cancelled with ⟨_, waits⟩ | withdrawn
        · rw [told] at waits
          cases waits
        · exact .inr (.inr ⟨⟨sound.callersNumbered caller present,
            fun after stays => (mem_callers_remove.mp stays).2⟩, rfl, withdrawn⟩)
      · exact .inl ⟨mem_callers_remove.mpr ⟨present, same⟩, silent_of_calls_end [] same⟩

/-- Who is told how a load ended was told before, or has just waited for it. -/
theorem told_origin (effect : Effect loads act flight happening next notices)
    (sound : flight.Sound) {after : Caller κ σ ρ} (present : after ∈ next.callers)
    {result : Option ρ} (told : after.phase = .told result) :
    after ∈ flight.callers ∨
      ∃ ticket, ∃ before ∈ flight.callers, before.id = after.id ∧ before.key = after.key ∧
        before.phase = .waiting ticket ∧ ∃ leader ∈ flight.callers, leader.phase.leads ticket ∧
          ∃ ending, .ended leader.id leader.key ending ∈ notices ∧ ending.result? = result := by
  have nextSound := effect.sound sound
  have notEntered : ∀ {before : Caller κ σ ρ} {phase : Phase σ ρ}, before.id = after.id →
      before.enter phase ∈ next.callers → phase ≠ .told result → False := by
    intro before phase sameId stays differs
    rw [← nextSound.sameCaller stays present sameId] at told
    exact differs told
  rcases effect.origin present with ⟨before, beforePresent, sameId, sameKey, _⟩ | ⟨_, _, _, arrival⟩
  · have notGone : ¬ next.Gone before.id := fun gone => gone.2 after present sameId.symm
    cases effect.fate sound beforePresent with
    | stays stays silent => exact .inl (nextSound.sameCaller stays present sameId ▸ beforePresent)
    | learns ticket waits leader leading leads ending ended stays silent =>
        have isAfter := nextSound.sameCaller stays present sameId
        rw [← isAfter] at told
        exact .inr ⟨ticket, before, beforePresent, sameId, sameKey, waits, leader, leading, leads,
          ending, ended, Phase.told.inj told⟩
    | proceeds ticket stage later leads stays => exact (notEntered sameId stays nofun).elim
    | joins ticket toldBefore found stays => exact (notEntered sameId stays nofun).elim
    | opens stage toldBefore opened stays => exact (notEntered sameId stays nofun).elim
    | passes ending toldBefore opened gone => exact absurd gone notGone
    | concludes ticket leads ending gone => exact absurd gone notGone
    | receives own toldBefore gone => exact absurd gone notGone
    | withdraws follows gone => exact absurd gone notGone
  · rcases arrival with ⟨ticket, waits, _⟩ | ⟨stage, leads, _⟩
    · rw [told] at waits
      cases waits
    · rw [told] at leads
      cases leads

/-! ## Records -/

/-- A new record has the next ticket. -/
theorem record_origin (effect : Effect loads act flight happening next notices)
    {record : String × Nat} (found : record ∈ next.records) :
    record ∈ flight.records ∨
      (record.2 = flight.nextTicket ∧ flight.nextTicket < next.nextTicket) := by
  cases effect with
  | joined entrant ticket lookedUp => exact .inl (entrant.records_eq ▸ found)
  | opened entrant free world calls stage started =>
      rcases List.mem_cons.mp found with rfl | before
      · exact .inr ⟨entrant.nextTicket_eq, entrant.nextTicket_eq ▸ Nat.lt_succ_self _⟩
      · exact .inl (entrant.records_eq ▸ before)
  | passed entrant free world calls progress ending started ends =>
      exact .inl (entrant.records_eq ▸ found)
  | concluded leader leading ticket stage leads outcome world calls progress ending resumed ends =>
      exact .inl (mem_records_release.mp found).1
  | abandoned leader leading ticket stage leads => exact .inl (mem_records_release.mp found).1
  | _ => exact .inl found

/-- A record goes only when its own leader ends. -/
theorem record_removed (effect : Effect loads act flight happening next notices)
    (sound : flight.Sound) {record : String × Nat} (found : record ∈ flight.records)
    (removed : record ∉ next.records) :
    ∃ leader ∈ flight.callers, leader.key = record.1 ∧ leader.phase.leads record.2 ∧
      next.Gone leader.id ∧ ∃ ending, .ended leader.id leader.key ending ∈ notices := by
  obtain ⟨leader, present, sameKey, leads⟩ := sound.led record found
  have recordedNext : ∀ after ∈ next.callers, after.key = record.1 → after.phase.leads record.2 →
      False := by
    intro after stays afterKey afterLeads
    have recorded := (effect.sound sound).recorded after stays _
      (Phase.ticket?_of_leads afterLeads)
    rw [afterKey] at recorded
    exact removed recorded
  refine ⟨leader, present, sameKey, leads, ?_⟩
  obtain ⟨leadingStage, leadsAt⟩ := leads
  cases effect.fate sound present with
  | stays stays silent => exact (recordedNext leader stays sameKey ⟨_, leadsAt⟩).elim
  | learns ticket waits =>
      rw [waits] at leadsAt
      cases leadsAt
  | proceeds ticket stage later leadsBefore stays calls =>
      rw [leadsBefore] at leadsAt
      obtain ⟨rfl, _⟩ := Phase.leading.inj leadsAt
      exact (recordedNext _ stays sameKey ⟨later, rfl⟩).elim
  | joins ticket told =>
      rw [told] at leadsAt
      cases leadsAt
  | opens stage told =>
      rw [told] at leadsAt
      cases leadsAt
  | passes ending told opened gone freed ended => exact ⟨gone, ending, ended⟩
  | concludes ticket leadsBefore ending gone freed ended => exact ⟨gone, ending, ended⟩
  | receives result told gone only => exact ⟨gone, _, only ▸ List.mem_singleton_self _⟩
  | withdraws follows gone only => exact ⟨gone, _, only ▸ List.mem_singleton_self _⟩

end Effect

end Flight

end RingCache
