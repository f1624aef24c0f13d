import Mathlib.Data.List.Nodup
import RingCache.Proofs.Flight.Runs

/-!
# What one happening can do

`Sound` is what holds of a flight at all times: numbers and tickets are handed
out once, and the records are those of the loads that callers lead. `Effect`
lists everything that a happening can do to a sound flight
(`Sound.effect`), so that a law of runs is one case for each effect. That a
happening keeps a flight sound is the first of these laws (`Effect.sound`).
-/

namespace RingCache

variable {ω κ σ γ ρ α : Type}

namespace Flight

/-- Numbers and tickets are handed out once; records and leaders belong to each
other; and who waits does so for a load with a record. -/
structure Sound (flight : Flight ω κ σ ρ) : Prop where
  /-- Callers differ in their numbers. -/
  callersDiffer : (flight.callers.map Caller.id).Nodup
  /-- The next number is new. -/
  callersNumbered : ∀ caller ∈ flight.callers, caller.id < flight.nextCaller
  /-- Records differ in their keys. -/
  keysDiffer : (flight.records.map Prod.fst).Nodup
  /-- Records differ in their tickets. -/
  ticketsDiffer : (flight.records.map Prod.snd).Nodup
  /-- The next ticket is new. -/
  ticketsIssued : ∀ record ∈ flight.records, record.2 < flight.nextTicket
  /-- A load that somebody leads or waits for has a record. -/
  recorded : ∀ caller ∈ flight.callers, ∀ ticket, caller.phase.ticket? = some ticket →
    (caller.key, ticket) ∈ flight.records
  /-- Somebody leads the load of a record. -/
  led : ∀ record ∈ flight.records, ∃ leader ∈ flight.callers,
    leader.key = record.1 ∧ leader.phase.leads record.2
  /-- Nobody else leads it. -/
  alone : ∀ one ∈ flight.callers, ∀ other ∈ flight.callers, ∀ ticket,
    one.phase.leads ticket → other.phase.leads ticket → one = other

/-- Whether a happening applies to nobody. -/
def Moot (flight : Flight ω κ σ ρ) : Happening α κ → Prop
  | .nothing => True
  | .event (.start _ _) => False
  | .event (.finish key _) =>
      ∀ caller ∈ flight.callers, caller.key = key → caller.phase.isLeading = false
  | .event (.cancelLeader key) =>
      ∀ caller ∈ flight.callers, caller.key = key → caller.phase.isLeading = false
  | .event (.cancelWaiter key) =>
      ∀ caller ∈ flight.callers, caller.key = key → caller.phase.isWaiting = false
  | .wake id => ∀ caller ∈ flight.callers, caller.id = id → caller.phase.isTold = false
  | .withdraw id => ∀ caller ∈ flight.callers, caller.id = id → caller.phase.isLeading
  | .act _ => False

/-- How a caller gets to enter a flight, and the flight that it then enters. -/
inductive Entrant (loads : Loads ω κ σ γ ρ) (flight : Flight ω κ σ ρ) :
    Happening α κ → Nat → String → κ → Flight ω κ σ ρ → Prop where
  /-- It has just come, and got no result at once. -/
  | fresh (key : String) (plan : κ) (missed : (loads.greet flight.world key plan).2 = none) :
      Entrant loads flight (.event (.start key plan)) flight.nextCaller key plan
        { flight with
          world := (loads.greet flight.world key plan).1
          nextCaller := flight.nextCaller + 1 }
  /-- The load that it waited for has ended without a result. -/
  | woken (caller : Caller κ σ ρ) (present : caller ∈ flight.callers)
      (told : caller.phase = .told none) :
      Entrant loads flight (.wake caller.id) caller.id caller.key caller.plan
        (flight.remove caller.id)

/-- What a happening does to a flight, and what can be seen of it. -/
inductive Effect (loads : Loads ω κ σ γ ρ) (act : ω → α → ω) (flight : Flight ω κ σ ρ) :
    Happening α κ → Flight ω κ σ ρ → List (Notice γ ρ) → Prop where
  /-- Nothing, since it applies to nobody. -/
  | idle (happening : Happening α κ) (moot : flight.Moot happening) :
      Effect loads act flight happening flight []
  /-- The world changes by an act. -/
  | acted (change : α) :
      Effect loads act flight (.act change) { flight with world := act flight.world change } []
  /-- A new caller is answered at once. -/
  | answered (key : String) (plan : κ) (result : ρ)
      (greeted : (loads.greet flight.world key plan).2 = some result) :
      Effect loads act flight (.event (.start key plan))
        { flight with
          world := (loads.greet flight.world key plan).1
          nextCaller := flight.nextCaller + 1 }
        [.ended flight.nextCaller key (.returned result)]
  /-- A caller joins those who wait for a load. -/
  | joined {happening : Happening α κ} {id : Nat} {key : String} {plan : κ}
      {base : Flight ω κ σ ρ} (entrant : Entrant loads flight happening id key plan base)
      (ticket : Nat) (found : (key, ticket) ∈ base.records) :
      Effect loads act flight happening (base.add ⟨id, key, plan, .waiting ticket⟩) []
  /-- A caller starts a load, which waits for the end of a call. -/
  | opened {happening : Happening α κ} {id : Nat} {key : String} {plan : κ}
      {base : Flight ω κ σ ρ} (entrant : Entrant loads flight happening id key plan base)
      (free : ∀ record ∈ base.records, record.1 ≠ key) (world : ω) (calls : List γ) (stage : σ)
      (started : loads.start base.world key plan = (world, calls, .blocked stage)) :
      Effect loads act flight happening
        { base with
          world := world
          records := (key, base.nextTicket) :: base.records
          nextTicket := base.nextTicket + 1
          callers := base.callers ++ [⟨id, key, plan, .leading base.nextTicket stage⟩] }
        (calls.map (.called id))
  /-- A caller starts a load, which ends at once. -/
  | passed {happening : Happening α κ} {id : Nat} {key : String} {plan : κ}
      {base : Flight ω κ σ ρ} (entrant : Entrant loads flight happening id key plan base)
      (free : ∀ record ∈ base.records, record.1 ≠ key) (world : ω) (calls : List γ)
      (progress : Progress σ ρ) (ending : Ending ρ)
      (started : loads.start base.world key plan = (world, calls, progress))
      (ends : progress.ending? = some ending) :
      Effect loads act flight happening
        { base with world := world, nextTicket := base.nextTicket + 1 }
        (calls.map (.called id) ++ [.ended id key ending])
  /-- A load goes on to wait for another call. -/
  | advanced (leader : Caller κ σ ρ) (present : leader ∈ flight.callers) (ticket : Nat)
      (stage : σ) (leads : leader.phase = .leading ticket stage) (outcome : Outcome) (world : ω)
      (calls : List γ) (next : σ)
      (resumed : loads.resume flight.world leader.key leader.plan stage outcome =
        (world, calls, .blocked next)) :
      Effect loads act flight (.event (.finish leader.key outcome))
        (Flight.add { flight.remove leader.id with world := world }
          { leader with phase := .leading ticket next })
        (calls.map (.called leader.id))
  /-- A load ends. -/
  | concluded (leader : Caller κ σ ρ) (present : leader ∈ flight.callers) (ticket : Nat)
      (stage : σ) (leads : leader.phase = .leading ticket stage) (outcome : Outcome) (world : ω)
      (calls : List γ) (progress : Progress σ ρ) (ending : Ending ρ)
      (resumed : loads.resume flight.world leader.key leader.plan stage outcome =
        (world, calls, progress))
      (ends : progress.ending? = some ending) :
      Effect loads act flight (.event (.finish leader.key outcome))
        (Flight.release { flight.remove leader.id with world := world } leader.key ticket
          ending.result?)
        (calls.map (.called leader.id) ++ [.ended leader.id leader.key ending])
  /-- A leader is cancelled. -/
  | abandoned (leader : Caller κ σ ρ) (present : leader ∈ flight.callers) (ticket : Nat)
      (stage : σ) (leads : leader.phase = .leading ticket stage) :
      Effect loads act flight (.event (.cancelLeader leader.key))
        ((flight.remove leader.id).release leader.key ticket none)
        [.ended leader.id leader.key .cancelled]
  /-- A caller ends with the result that it was told. -/
  | shared (caller : Caller κ σ ρ) (present : caller ∈ flight.callers) (result : ρ)
      (told : caller.phase = .told (some result)) :
      Effect loads act flight (.wake caller.id)
        { flight.remove caller.id with world := loads.share flight.world }
        [.ended caller.id caller.key (.returned result)]
  /-- A caller that does not lead is cancelled. -/
  | withdrawn (happening : Happening α κ) (caller : Caller κ σ ρ)
      (present : caller ∈ flight.callers) (follows : caller.phase.isLeading = false)
      (cancelled : (happening = .event (.cancelWaiter caller.key) ∧ caller.phase.isWaiting) ∨
        happening = .withdraw caller.id) :
      Effect loads act flight happening (flight.remove caller.id)
        [.ended caller.id caller.key .cancelled]

variable {loads : Loads ω κ σ γ ρ} {act : ω → α → ω} {flight next : Flight ω κ σ ρ}
  {happening : Happening α κ} {notices : List (Notice γ ρ)}

/-! ## Entering a flight -/

section Entering

variable {id : Nat} {key : String} {plan : κ} {world : ω} {calls : List γ}

/-- A key that is not found has no record. -/
theorem free_of_lookup_eq_none (missing : flight.records.lookup key = none) :
    ∀ record ∈ flight.records, record.1 ≠ key := by
  intro record found sameKey
  have differs := List.lookup_eq_none_iff.mp missing record found
  simp [sameKey] at differs

/-- A load whose ticket nobody waits for ends as if it had never had a record. -/
theorem release_new (free : ∀ record ∈ flight.records, record.1 ≠ key)
    (unheld : ∀ caller ∈ flight.callers, caller.phase ≠ .waiting flight.nextTicket)
    (world : ω) (result : Option ρ) :
    release { flight with
        world := world
        records := (key, flight.nextTicket) :: flight.records
        nextTicket := flight.nextTicket + 1 } key flight.nextTicket result =
      { flight with world := world, nextTicket := flight.nextTicket + 1 } := by
  have recordsKept :
      (((key, flight.nextTicket) :: flight.records).filter fun record => record.1 != key) =
        flight.records := by
    rw [List.filter_cons_of_neg (by simp)]
    exact List.filter_eq_self.mpr fun record found => by simpa using free record found
  have callersKept :
      (flight.callers.map fun caller => caller.tell flight.nextTicket result) =
        flight.callers := by
    refine (List.map_congr_left fun caller present => ?_).trans (List.map_id' _)
    rcases caller.phase.tell_cases flight.nextTicket result with ⟨waits, _⟩ | ⟨_, same⟩
    · exact absurd waits (unheld caller present)
    · rw [Caller.tell, same]
  unfold release
  rw [recordsKept]
  exact congrArg (fun callers => { flight with
    world := world, nextTicket := flight.nextTicket + 1, callers := callers }) callersKept

/-- Who enters while the key has a record waits. -/
theorem enter_waiting {ticket : Nat} (found : flight.records.lookup key = some ticket) :
    (flight.enter loads id key plan : Flight ω κ σ ρ × List (Notice γ ρ)) =
      (flight.add ⟨id, key, plan, .waiting ticket⟩, []) := by
  rw [enter, found]

/-- Who enters while the key has no record leads a load that is blocked. -/
theorem enter_blocked {stage : σ} (missing : flight.records.lookup key = none)
    (started : loads.start flight.world key plan = (world, calls, .blocked stage)) :
    flight.enter loads id key plan =
      ({ flight with
          world := world
          records := (key, flight.nextTicket) :: flight.records
          nextTicket := flight.nextTicket + 1
          callers := flight.callers ++ [⟨id, key, plan, .leading flight.nextTicket stage⟩] },
        calls.map (.called id)) := by
  simp [enter, missing, started, land, add]

/-- Who enters while the key has no record ends when its load ends at once. -/
theorem enter_ended {progress : Progress σ ρ} {ending : Ending ρ}
    (missing : flight.records.lookup key = none)
    (unheld : ∀ caller ∈ flight.callers, caller.phase ≠ .waiting flight.nextTicket)
    (started : loads.start flight.world key plan = (world, calls, progress))
    (ends : progress.ending? = some ending) :
    flight.enter loads id key plan =
      ({ flight with world := world, nextTicket := flight.nextTicket + 1 },
        calls.map (.called id) ++ [.ended id key ending]) := by
  have free := free_of_lookup_eq_none missing
  rw [enter, missing, started]
  cases progress with
  | blocked stage => cases ends
  | returned result =>
      cases ends
      dsimp only [land]
      rw [release_new free unheld]
  | crashed =>
      cases ends
      dsimp only [land]
      rw [release_new free unheld]

end Entering

/-! ## Every happening has an effect -/

namespace Sound

/-- A flight without callers is sound. -/
theorem empty (world : ω) : Sound ({ world := world } : Flight ω κ σ ρ) where
  callersDiffer := List.nodup_nil
  callersNumbered _ present := nomatch present
  keysDiffer := List.nodup_nil
  ticketsDiffer := List.nodup_nil
  ticketsIssued _ found := nomatch found
  recorded _ present := nomatch present
  led _ found := nomatch found
  alone _ present := nomatch present

/-- Callers with one number are one. -/
theorem sameCaller (sound : flight.Sound) {one other : Caller κ σ ρ}
    (onePresent : one ∈ flight.callers) (otherPresent : other ∈ flight.callers)
    (sameNumber : one.id = other.id) : one = other :=
  List.inj_on_of_nodup_map sound.callersDiffer onePresent otherPresent sameNumber

/-- A key has one record. -/
theorem sameTicket (sound : flight.Sound) {key : String} {one other : Nat}
    (oneRecorded : (key, one) ∈ flight.records) (otherRecorded : (key, other) ∈ flight.records) :
    one = other :=
  (Prod.mk.inj
    (List.inj_on_of_nodup_map sound.keysDiffer oneRecorded otherRecorded rfl)).2

/-- A ticket has one record. -/
theorem sameKey (sound : flight.Sound) {ticket : Nat} {one other : String}
    (oneRecorded : (one, ticket) ∈ flight.records)
    (otherRecorded : (other, ticket) ∈ flight.records) : one = other :=
  (Prod.mk.inj
    (List.inj_on_of_nodup_map sound.ticketsDiffer oneRecorded otherRecorded rfl)).1

/-- Callers that lead loads of one key are one. -/
theorem sameLeader (sound : flight.Sound) {one other : Caller κ σ ρ}
    (onePresent : one ∈ flight.callers) (otherPresent : other ∈ flight.callers)
    (oneLeading : one.phase.isLeading) (otherLeading : other.phase.isLeading)
    (sameKey : one.key = other.key) : one = other := by
  obtain ⟨ticket, oneLeads⟩ := Phase.isLeading_iff.mp oneLeading
  obtain ⟨otherTicket, otherLeads⟩ := Phase.isLeading_iff.mp otherLeading
  have oneRecorded := sound.recorded one onePresent ticket (Phase.ticket?_of_leads oneLeads)
  have otherRecorded :=
    sound.recorded other otherPresent otherTicket (Phase.ticket?_of_leads otherLeads)
  rw [sameKey] at oneRecorded
  obtain rfl := sound.sameTicket oneRecorded otherRecorded
  exact sound.alone one onePresent other otherPresent ticket oneLeads otherLeads

/-- Looking a key up finds its record. -/
theorem lookup_eq_some_iff (sound : flight.Sound) {key : String} {ticket : Nat} :
    flight.records.lookup key = some ticket ↔ (key, ticket) ∈ flight.records := by
  constructor
  · intro lookedUp
    obtain ⟨front, back, split, _⟩ := List.lookup_eq_some_iff.mp lookedUp
    rw [split]
    simp
  · intro found
    cases lookedUp : flight.records.lookup key with
    | none =>
        have differs := List.lookup_eq_none_iff.mp lookedUp _ found
        simp at differs
    | some other =>
        obtain ⟨front, back, split, _⟩ := List.lookup_eq_some_iff.mp lookedUp
        have otherFound : (key, other) ∈ flight.records := by
          rw [split]
          simp
        rw [sound.sameTicket found otherFound]

/-- A flight stays sound when the world changes and when numbers and tickets are
used up. -/
theorem later (sound : flight.Sound) (world : ω) {nextTicket nextCaller : Nat}
    (ticketsGrow : flight.nextTicket ≤ nextTicket) (numbersGrow : flight.nextCaller ≤ nextCaller) :
    Sound { flight with world := world, nextTicket := nextTicket, nextCaller := nextCaller } where
  callersDiffer := sound.callersDiffer
  callersNumbered caller present :=
    Nat.lt_of_lt_of_le (sound.callersNumbered caller present) numbersGrow
  keysDiffer := sound.keysDiffer
  ticketsDiffer := sound.ticketsDiffer
  ticketsIssued record found :=
    Nat.lt_of_lt_of_le (sound.ticketsIssued record found) ticketsGrow
  recorded := sound.recorded
  led := sound.led
  alone := sound.alone

/-- A flight stays sound when a caller that does not lead goes. -/
theorem remove (sound : flight.Sound) {caller : Caller κ σ ρ} (present : caller ∈ flight.callers)
    (follows : caller.phase.isLeading = false) : (flight.remove caller.id).Sound where
  callersDiffer := sound.callersDiffer.sublist (List.filter_sublist.map _)
  callersNumbered other stays := sound.callersNumbered other (mem_callers_remove.mp stays).1
  keysDiffer := sound.keysDiffer
  ticketsDiffer := sound.ticketsDiffer
  ticketsIssued := sound.ticketsIssued
  recorded other stays := sound.recorded other (mem_callers_remove.mp stays).1
  led record found := by
    obtain ⟨leader, leaderPresent, leaderKey, leads⟩ := sound.led record found
    refine ⟨leader, mem_callers_remove.mpr ⟨leaderPresent, ?_⟩, leaderKey, leads⟩
    intro sameNumber
    have isCaller := sound.sameCaller leaderPresent present sameNumber
    have leading : caller.phase.isLeading := Phase.isLeading_iff.mpr ⟨_, isCaller ▸ leads⟩
    rw [follows] at leading
    cases leading
  alone one oneStays other otherStays :=
    sound.alone one (mem_callers_remove.mp oneStays).1 other (mem_callers_remove.mp otherStays).1

/-- The flight that a caller enters is sound, and the caller is not yet in it. -/
theorem entrant (sound : flight.Sound) {id : Nat} {key : String} {plan : κ}
    {base : Flight ω κ σ ρ} (entrant : Entrant loads flight happening id key plan base) :
    base.Sound ∧ id < base.nextCaller ∧ ∀ caller ∈ base.callers, caller.id ≠ id := by
  cases entrant with
  | fresh key plan missed =>
      refine ⟨sound.later _ (Nat.le_refl _) (Nat.le_succ _), Nat.lt_succ_self _, ?_⟩
      intro caller present
      exact Nat.ne_of_lt (sound.callersNumbered caller present)
  | woken caller present told =>
      refine ⟨sound.remove present (by rw [told]; rfl), sound.callersNumbered caller present, ?_⟩
      intro other stays
      exact (mem_callers_remove.mp stays).2

/-- Nobody waits for a load whose ticket is new. -/
theorem waiting_ne_new (sound : flight.Sound) :
    ∀ caller ∈ flight.callers, caller.phase ≠ .waiting flight.nextTicket := by
  intro caller present waits
  have found := sound.recorded caller present flight.nextTicket (by rw [waits]; rfl)
  exact absurd (sound.ticketsIssued _ found) (Nat.lt_irrefl _)

/-- A caller that enters waits for a load, or starts one. -/
theorem effect_enter (sound : flight.Sound) {id : Nat} {key : String} {plan : κ}
    {base : Flight ω κ σ ρ} (entrant : Entrant loads flight happening id key plan base) :
    Effect loads act flight happening (base.enter loads id key plan).1
      (base.enter loads id key plan).2 := by
  have baseSound := (sound.entrant entrant).1
  cases lookedUp : base.records.lookup key with
  | some ticket =>
      rw [enter_waiting lookedUp]
      exact .joined entrant ticket (baseSound.lookup_eq_some_iff.mp lookedUp)
  | none =>
      have free := free_of_lookup_eq_none lookedUp
      obtain ⟨⟨world, calls, progress⟩, started⟩ :
          ∃ pass, loads.start base.world key plan = pass := ⟨_, rfl⟩
      cases ends : progress.ending? with
      | none =>
          obtain ⟨stage, rfl⟩ := Progress.ending?_eq_none.mp ends
          rw [enter_blocked lookedUp started]
          exact .opened entrant free world calls stage started
      | some ending =>
          rw [enter_ended lookedUp baseSound.waiting_ne_new started ends]
          exact .passed entrant free world calls progress ending started ends

/-- The leader of a key is found. -/
theorem leader?_eq_some {key : String} {leader : Caller κ σ ρ}
    (found : flight.leader? key = some leader) :
    leader ∈ flight.callers ∧ leader.key = key ∧
      ∃ ticket stage, leader.phase = .leading ticket stage := by
  have isLeader := List.find?_some found
  obtain ⟨sameKey, leading⟩ : leader.key = key ∧ leader.phase.isLeading := by
    simpa using isLeader
  exact ⟨List.mem_of_find?_eq_some found, sameKey,
    Phase.isLeading_iff.mp leading⟩

/-- When no leader is found, nobody leads a load of the key. -/
theorem leader?_eq_none {key : String} (missing : flight.leader? key = none) :
    ∀ caller ∈ flight.callers, caller.key = key → caller.phase.isLeading = false := by
  intro caller present sameKey
  have notLeader := List.find?_eq_none.mp missing caller present
  simpa [sameKey] using notLeader

/-- The call that a load waits for ends: the load goes on or ends. -/
theorem effect_finish (key : String) (outcome : Outcome) :
    Effect loads act flight (.event (.finish key outcome)) (flight.finish loads key outcome).1
      (flight.finish loads key outcome).2 := by
  rw [finish]
  cases found : flight.leader? key with
  | none => exact .idle _ (leader?_eq_none found)
  | some leader =>
      obtain ⟨present, rfl, ticket, stage, leads⟩ := leader?_eq_some found
      obtain ⟨id, key, plan, phase⟩ := leader
      obtain rfl : phase = .leading ticket stage := leads
      dsimp only
      generalize resumed : loads.resume flight.world key plan stage outcome = pass
      obtain ⟨world, calls, progress⟩ := pass
      cases progress with
      | blocked next =>
          dsimp only [land]
          rw [List.append_nil]
          exact .advanced _ present ticket stage rfl outcome world calls next resumed
      | returned result =>
          exact .concluded _ present ticket stage rfl outcome world calls _ _ resumed rfl
      | crashed =>
          exact .concluded _ present ticket stage rfl outcome world calls _ _ resumed rfl

/-- An event has an effect. -/
theorem effect_apply (sound : flight.Sound) (event : Event κ) :
    Effect loads act flight (.event event) (flight.apply loads event).1
      (flight.apply loads event).2 := by
  cases event with
  | start key plan =>
      rw [apply, ask]
      cases greeted : (loads.greet flight.world key plan).2 with
      | some result => exact .answered key plan result greeted
      | none => exact sound.effect_enter (.fresh key plan greeted)
  | finish key outcome => exact effect_finish key outcome
  | cancelLeader key =>
      rw [apply, cancelLeader]
      cases found : flight.leader? key with
      | none => exact .idle _ (leader?_eq_none found)
      | some leader =>
          obtain ⟨present, rfl, ticket, stage, leads⟩ := leader?_eq_some found
          obtain ⟨id, key, plan, phase⟩ := leader
          obtain rfl : phase = .leading ticket stage := leads
          exact .abandoned _ present ticket stage rfl
  | cancelWaiter key =>
      rw [apply, cancelWaiter]
      cases found : flight.waiter? key with
      | none =>
          refine .idle _ fun caller present sameKey => ?_
          have notWaiter := List.find?_eq_none.mp found caller present
          simpa [sameKey] using notWaiter
      | some waiter =>
          have isWaiter := List.find?_some found
          obtain ⟨rfl, waiting⟩ : waiter.key = key ∧ waiter.phase.isWaiting := by
            simpa using isWaiter
          exact .withdrawn _ waiter (List.mem_of_find?_eq_some found)
            (Phase.isLeading_of_isWaiting waiting) (.inl ⟨rfl, waiting⟩)

/-- The waking of a caller that was told is that caller going on. -/
theorem happen_wake (loads : Loads ω κ σ γ ρ) (act : ω → α → ω) (sound : flight.Sound)
    {caller : Caller κ σ ρ} (present : caller ∈ flight.callers) (isTold : caller.phase.isTold) :
    flight.happen loads act (.wake caller.id) = (flight.remove caller.id).wake loads caller := by
  rw [happen]
  split
  · rename_i other found
    have isOther := List.find?_some found
    obtain ⟨sameNumber, _⟩ : other.id = caller.id ∧ other.phase.isTold := by simpa using isOther
    rw [sound.sameCaller (List.mem_of_find?_eq_some found) present sameNumber]
  · rename_i missing
    have differs := List.find?_eq_none.mp missing caller present
    simp [isTold] at differs

/-- Whatever happens to a sound flight has one of the effects. -/
theorem effect (loads : Loads ω κ σ γ ρ) (act : ω → α → ω) (sound : flight.Sound)
    (happening : Happening α κ) :
    Effect loads act flight happening (flight.happen loads act happening).1
      (flight.happen loads act happening).2 := by
  cases happening with
  | nothing => exact .idle _ trivial
  | event event => exact sound.effect_apply event
  | wake id =>
      rw [happen]
      split
      · rename_i caller found
        have isTold := List.find?_some found
        have present := List.mem_of_find?_eq_some found
        obtain ⟨rfl, told⟩ : caller.id = id ∧ caller.phase.isTold := by simpa using isTold
        obtain ⟨result, phase⟩ := Phase.isTold_iff.mp told
        rw [wake, phase]
        cases result with
        | some result => exact .shared caller present result phase
        | none => exact sound.effect_enter (.woken caller present phase)
      · rename_i missing
        refine .idle _ fun caller present sameNumber => ?_
        have notTold := List.find?_eq_none.mp missing caller present
        simpa [sameNumber] using notTold
  | withdraw id =>
      rw [happen]
      split
      · rename_i caller found
        have isFollower := List.find?_some found
        obtain ⟨rfl, follows⟩ : caller.id = id ∧ caller.phase.isLeading = false := by
          simpa using isFollower
        exact .withdrawn _ caller (List.mem_of_find?_eq_some found) follows (.inr rfl)
      · rename_i missing
        refine .idle _ fun caller present sameNumber => ?_
        have notFollower := List.find?_eq_none.mp missing caller present
        simpa [sameNumber] using notFollower
  | act change => exact .acted change

end Sound

/-! ## Every effect keeps a flight sound -/

namespace Sound

/-- A caller that waits for a load in flight can be added. -/
theorem add_waiting (sound : flight.Sound) {id : Nat} {key : String} {plan : κ} {ticket : Nat}
    (numbered : id < flight.nextCaller) (new : ∀ caller ∈ flight.callers, caller.id ≠ id)
    (found : (key, ticket) ∈ flight.records) :
    (flight.add ⟨id, key, plan, .waiting ticket⟩).Sound where
  callersDiffer := by
    rw [add, List.map_append, List.nodup_append]
    refine ⟨sound.callersDiffer, by simp, ?_⟩
    simpa using new
  callersNumbered caller present := by
    rcases mem_callers_add.mp present with before | rfl
    · exact sound.callersNumbered caller before
    · exact numbered
  keysDiffer := sound.keysDiffer
  ticketsDiffer := sound.ticketsDiffer
  ticketsIssued := sound.ticketsIssued
  recorded caller present own holds := by
    rcases mem_callers_add.mp present with before | rfl
    · exact sound.recorded caller before own holds
    · obtain rfl : ticket = own := Option.some.inj holds
      exact found
  led record recordFound := by
    obtain ⟨leader, present, leads⟩ := sound.led record recordFound
    exact ⟨leader, mem_callers_add.mpr (.inl present), leads⟩
  alone one onePresent other otherPresent own oneLeads otherLeads := by
    rcases mem_callers_add.mp onePresent with oneBefore | rfl
    · rcases mem_callers_add.mp otherPresent with otherBefore | rfl
      · exact sound.alone one oneBefore other otherBefore own oneLeads otherLeads
      · exact absurd otherLeads Phase.not_leads_waiting
    · exact absurd oneLeads Phase.not_leads_waiting

/-- A caller can lead a new load of a key without a record. -/
theorem add_leading (sound : flight.Sound) {id : Nat} {key : String} {plan : κ}
    (numbered : id < flight.nextCaller) (new : ∀ caller ∈ flight.callers, caller.id ≠ id)
    (free : ∀ record ∈ flight.records, record.1 ≠ key) (world : ω) (stage : σ) :
    Sound { flight with
      world := world
      records := (key, flight.nextTicket) :: flight.records
      nextTicket := flight.nextTicket + 1
      callers := flight.callers ++ [⟨id, key, plan, .leading flight.nextTicket stage⟩] } where
  callersDiffer := by
    rw [List.map_append, List.nodup_append]
    refine ⟨sound.callersDiffer, by simp, ?_⟩
    simpa using new
  callersNumbered caller present := by
    rcases List.mem_append.mp present with before | added
    · exact sound.callersNumbered caller before
    · obtain rfl := List.mem_singleton.mp added
      exact numbered
  keysDiffer := by
    refine List.nodup_cons.mpr ⟨?_, sound.keysDiffer⟩
    intro again
    obtain ⟨record, found, sameKey⟩ := List.mem_map.mp again
    exact free record found sameKey
  ticketsDiffer := by
    refine List.nodup_cons.mpr ⟨?_, sound.ticketsDiffer⟩
    intro again
    obtain ⟨record, found, sameTicket⟩ := List.mem_map.mp again
    have notIssued := Nat.not_lt_of_le (Nat.le_of_eq sameTicket.symm)
    exact absurd (sound.ticketsIssued record found) notIssued
  ticketsIssued record found := by
    rcases List.mem_cons.mp found with rfl | before
    · exact Nat.lt_succ_self _
    · exact Nat.lt_succ_of_lt (sound.ticketsIssued record before)
  recorded caller present own holds := by
    rcases List.mem_append.mp present with before | added
    · exact List.mem_cons_of_mem _ (sound.recorded caller before own holds)
    · obtain rfl := List.mem_singleton.mp added
      obtain rfl : flight.nextTicket = own := Option.some.inj holds
      exact List.mem_cons_self
  led record found := by
    rcases List.mem_cons.mp found with rfl | before
    · exact ⟨_, List.mem_append_right _ (List.mem_singleton_self _), rfl, stage, rfl⟩
    · obtain ⟨leader, present, leads⟩ := sound.led record before
      exact ⟨leader, List.mem_append_left _ present, leads⟩
  alone one onePresent other otherPresent own oneLeads otherLeads := by
    have old : ∀ caller ∈ flight.callers, ¬ caller.phase.leads flight.nextTicket := by
      intro caller present leads
      have found := sound.recorded caller present _ (Phase.ticket?_of_leads leads)
      exact absurd (sound.ticketsIssued _ found) (Nat.lt_irrefl _)
    rcases List.mem_append.mp onePresent with oneBefore | oneAdded <;>
      rcases List.mem_append.mp otherPresent with otherBefore | otherAdded
    · exact sound.alone one oneBefore other otherBefore own oneLeads otherLeads
    · obtain rfl := List.mem_singleton.mp otherAdded
      obtain rfl : flight.nextTicket = own := Phase.leads_leading.mp otherLeads
      exact absurd oneLeads (old one oneBefore)
    · obtain rfl := List.mem_singleton.mp oneAdded
      obtain rfl : flight.nextTicket = own := Phase.leads_leading.mp oneLeads
      exact absurd otherLeads (old other otherBefore)
    · rw [List.mem_singleton.mp oneAdded, List.mem_singleton.mp otherAdded]

/-- A leader can go on to another stage of its load. -/
theorem advance (sound : flight.Sound) {leader : Caller κ σ ρ}
    (present : leader ∈ flight.callers) {ticket : Nat} (leads : leader.phase.leads ticket)
    (world : ω) (stage : σ) :
    (Flight.add { flight.remove leader.id with world := world }
      { leader with phase := .leading ticket stage }).Sound := by
  have numberNew : ∀ caller ∈ (flight.remove leader.id).callers, caller.id ≠ leader.id :=
    fun caller stays => (mem_callers_remove.mp stays).2
  have noOther : ∀ caller ∈ (flight.remove leader.id).callers, ¬ caller.phase.leads ticket := by
    intro caller stays also
    obtain ⟨before, differs⟩ := mem_callers_remove.mp stays
    exact differs (congrArg Caller.id (sound.alone caller before leader present ticket also leads))
  refine
    { callersDiffer := ?_, callersNumbered := ?_, keysDiffer := sound.keysDiffer,
      ticketsDiffer := sound.ticketsDiffer, ticketsIssued := sound.ticketsIssued,
      recorded := ?_, led := ?_, alone := ?_ }
  · rw [add, List.map_append, List.nodup_append]
    refine ⟨sound.callersDiffer.sublist (List.filter_sublist.map _), by simp, ?_⟩
    intro number stays other added
    obtain ⟨caller, kept, rfl⟩ := List.mem_map.mp stays
    rw [List.mem_singleton.mp added]
    exact numberNew caller kept
  · intro caller after
    rcases mem_callers_add.mp after with stays | rfl
    · exact sound.callersNumbered caller (mem_callers_remove.mp stays).1
    · exact sound.callersNumbered leader present
  · intro caller after own holds
    rcases mem_callers_add.mp after with stays | rfl
    · exact sound.recorded caller (mem_callers_remove.mp stays).1 own holds
    · obtain rfl : ticket = own := Option.some.inj holds
      exact sound.recorded leader present ticket (Phase.ticket?_of_leads leads)
  · intro record found
    obtain ⟨before, beforePresent, sameKey, beforeLeads⟩ := sound.led record found
    by_cases isLeader : before.id = leader.id
    · obtain rfl := sound.sameCaller beforePresent present isLeader
      have sameTicket : ticket = record.2 := by
        have one := Phase.ticket?_of_leads leads
        rw [Phase.ticket?_of_leads beforeLeads] at one
        exact (Option.some.inj one).symm
      exact ⟨_, mem_callers_add.mpr (.inr rfl), sameKey, stage, by rw [sameTicket]⟩
    · exact ⟨before, mem_callers_add.mpr (.inl (mem_callers_remove.mpr ⟨beforePresent, isLeader⟩)),
        sameKey, beforeLeads⟩
  · intro one oneAfter other otherAfter own oneLeads otherLeads
    rcases mem_callers_add.mp oneAfter with oneStays | rfl <;>
      rcases mem_callers_add.mp otherAfter with otherStays | rfl
    · exact sound.alone one (mem_callers_remove.mp oneStays).1 other
        (mem_callers_remove.mp otherStays).1 own oneLeads otherLeads
    · obtain rfl : ticket = own := Phase.leads_leading.mp otherLeads
      exact absurd oneLeads (noOther one oneStays)
    · obtain rfl : ticket = own := Phase.leads_leading.mp oneLeads
      exact absurd otherLeads (noOther other otherStays)
    · rfl

/-- The load of a leader that goes can end, with a result or without. -/
theorem conclude (sound : flight.Sound) {leader : Caller κ σ ρ}
    (present : leader ∈ flight.callers) {ticket : Nat} (leads : leader.phase.leads ticket)
    (world : ω) (result : Option ρ) :
    (Flight.release { flight.remove leader.id with world := world } leader.key ticket
      result).Sound := by
  have leaderRecord : (leader.key, ticket) ∈ flight.records :=
    sound.recorded leader present ticket (Phase.ticket?_of_leads leads)
  have fate : ∀ after ∈ (Flight.release { flight.remove leader.id with world := world }
      leader.key ticket result).callers, ∃ before ∈ flight.callers,
        before.id ≠ leader.id ∧ before.tell ticket result = after := by
    intro after stays
    obtain ⟨before, kept, told⟩ := mem_callers_release.mp stays
    obtain ⟨beforePresent, differs⟩ := mem_callers_remove.mp kept
    exact ⟨before, beforePresent, differs, told⟩
  refine
    { callersDiffer := ?_, callersNumbered := ?_,
      keysDiffer := sound.keysDiffer.sublist (List.filter_sublist.map _),
      ticketsDiffer := sound.ticketsDiffer.sublist (List.filter_sublist.map _),
      ticketsIssued := ?_, recorded := ?_, led := ?_, alone := ?_ }
  · have sameNumbers : (Flight.release { flight.remove leader.id with world := world } leader.key
        ticket result).callers.map Caller.id = (flight.remove leader.id).callers.map Caller.id := by
      simp [release, Function.comp_def]
    rw [sameNumbers]
    exact sound.callersDiffer.sublist (List.filter_sublist.map _)
  · intro after stays
    obtain ⟨before, beforePresent, _, rfl⟩ := fate after stays
    exact sound.callersNumbered before beforePresent
  · intro record found
    exact sound.ticketsIssued record (mem_records_release.mp found).1
  · intro after stays own holds
    obtain ⟨before, beforePresent, differs, rfl⟩ := fate after stays
    rcases before.phase.tell_cases ticket result with ⟨_, told⟩ | ⟨notWaiting, same⟩
    · rw [Caller.phase_tell, told] at holds
      cases holds
    · rw [Caller.phase_tell, same] at holds
      have found := sound.recorded before beforePresent own holds
      refine mem_records_release.mpr ⟨found, fun sameKey => ?_⟩
      have sameTicket : own = ticket :=
        sound.sameTicket (sameKey ▸ found) leaderRecord
      subst sameTicket
      rcases Phase.leads_or_waits holds with beforeLeads | waits
      · exact differs (congrArg Caller.id
          (sound.alone before beforePresent leader present own beforeLeads leads))
      · exact notWaiting waits
  · intro record found
    obtain ⟨recordFound, otherKey⟩ := mem_records_release.mp found
    obtain ⟨before, beforePresent, sameKey, beforeLeads⟩ := sound.led record recordFound
    refine ⟨before.tell ticket result, mem_callers_release.mpr ⟨before, ?_, rfl⟩, sameKey, ?_⟩
    · refine mem_callers_remove.mpr ⟨beforePresent, fun sameNumber => ?_⟩
      rw [sound.sameCaller beforePresent present sameNumber] at sameKey
      exact otherKey sameKey.symm
    · simpa using beforeLeads
  · intro one oneStays other otherStays own oneLeads otherLeads
    obtain ⟨oneBefore, onePresent, _, rfl⟩ := fate one oneStays
    obtain ⟨otherBefore, otherPresent, _, rfl⟩ := fate other otherStays
    rw [Caller.phase_tell, Phase.leads_tell] at oneLeads otherLeads
    rw [sound.alone oneBefore onePresent otherBefore otherPresent own oneLeads otherLeads]

end Sound

/-- Whatever happens, a flight stays sound. -/
theorem Effect.sound (effect : Effect loads act flight happening next notices)
    (sound : flight.Sound) : next.Sound := by
  cases effect with
  | idle happening moot => exact sound
  | acted change => exact sound.later _ (Nat.le_refl _) (Nat.le_refl _)
  | answered key plan result greeted => exact sound.later _ (Nat.le_refl _) (Nat.le_succ _)
  | joined entrant ticket found =>
      obtain ⟨baseSound, numbered, new⟩ := sound.entrant entrant
      exact baseSound.add_waiting numbered new found
  | opened entrant free world calls stage started =>
      obtain ⟨baseSound, numbered, new⟩ := sound.entrant entrant
      exact baseSound.add_leading numbered new free world stage
  | passed entrant free world calls progress ending started ends =>
      exact (sound.entrant entrant).1.later _ (Nat.le_succ _) (Nat.le_refl _)
  | advanced leader present ticket stage leads outcome world calls next resumed =>
      exact sound.advance present ⟨stage, leads⟩ world next
  | concluded leader present ticket stage leads outcome world calls progress ending resumed ends =>
      exact sound.conclude present ⟨stage, leads⟩ world _
  | abandoned leader present ticket stage leads =>
      exact sound.conclude present ⟨stage, leads⟩ flight.world none
  | shared caller present result told =>
      exact (sound.remove present (by rw [told]; rfl)).later _ (Nat.le_refl _) (Nat.le_refl _)
  | withdrawn happening caller present follows cancelled => exact sound.remove present follows

end Flight

end RingCache
