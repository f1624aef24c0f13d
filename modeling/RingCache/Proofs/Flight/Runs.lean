import RingCache.Flight

/-!
# Runs of flights

A run takes a flight without callers through happenings, one caller at a time.
Apart from the events of a flight these are: a caller that has been told goes
on, in any order and at any later time; a caller that does not lead is cancelled,
told or not; and the world changes by an act that is nobody's load. Every order
of happenings is a run, and one that does not apply changes nothing.

`Flight.step` lets everybody who was told go on before the next event. The runs
here are more: they also have all the moments in between.
-/

namespace RingCache

variable {ω κ σ γ ρ α : Type}

/-- What can happen next to a flight. -/
inductive Happening (α κ : Type) where
  /-- Nothing happens. -/
  | nothing
  /-- An event, without what others do about it. -/
  | event (event : Flight.Event κ)
  /-- The caller with this number goes on, if it was told to. -/
  | wake (caller : Nat)
  /-- The caller with this number is cancelled, if it does not lead. -/
  | withdraw (caller : Nat)
  /-- Something other than a caller acts on the world. -/
  | act (act : α)

/-- The ending of a load that has come so far, if it has ended. -/
def Progress.ending? : Progress σ ρ → Option (Ending ρ)
  | .blocked _ => none
  | .returned result => some (.returned result)
  | .crashed => some .crashed

/-- What a leader that ends so leaves to those who wait. -/
def Ending.result? : Ending ρ → Option ρ
  | .returned result => some result
  | .cancelled => none
  | .crashed => none

/-- Whether a caller leads the load with a ticket. -/
def Phase.leads (phase : Phase σ ρ) (ticket : Nat) : Prop :=
  ∃ stage, phase = .leading ticket stage

/-- The ticket of the load that a caller leads or waits for. -/
def Phase.ticket? : Phase σ ρ → Option Nat
  | .leading ticket _ => some ticket
  | .waiting ticket => some ticket
  | .told _ => none

/-- The caller once the load with a ticket has ended. -/
def Caller.tell (caller : Caller κ σ ρ) (ticket : Nat) (result : Option ρ) : Caller κ σ ρ :=
  { caller with phase := caller.phase.tell ticket result }

namespace Flight

/-- One happening, and what can be seen of it. -/
def happen (loads : Loads ω κ σ γ ρ) (act : ω → α → ω) (flight : Flight ω κ σ ρ) :
    Happening α κ → Flight ω κ σ ρ × List (Notice γ ρ)
  | .nothing => (flight, [])
  | .event event => flight.apply loads event
  | .wake id =>
      match flight.callers.find? fun caller => caller.id == id && caller.phase.isTold with
      | some caller => (flight.remove caller.id).wake loads caller
      | none => (flight, [])
  | .withdraw id =>
      match flight.callers.find? fun caller => caller.id == id && !caller.phase.isLeading with
      | some caller => (flight.remove caller.id, [.ended caller.id caller.key .cancelled])
      | none => (flight, [])
  | .act change => ({ flight with world := act flight.world change }, [])

end Flight

/-- A world without callers and what happens to it. -/
structure Run (loads : Loads ω κ σ γ ρ) (act : ω → α → ω) where
  /-- The world at first. -/
  world : ω
  /-- What happens, in order. -/
  happening : Nat → Happening α κ

namespace Run

variable {loads : Loads ω κ σ γ ρ} {act : ω → α → ω}

/-- The flight after so many happenings. -/
def state (run : Run loads act) : Nat → Flight ω κ σ ρ
  | 0 => { world := run.world }
  | index + 1 => ((run.state index).happen loads act (run.happening index)).1

/-- What can be seen of a happening. -/
def notices (run : Run loads act) (index : Nat) : List (Notice γ ρ) :=
  ((run.state index).happen loads act (run.happening index)).2

end Run

/-! ## Phases -/

/-- A load that has not ended is blocked. -/
theorem Progress.ending?_eq_none {progress : Progress σ ρ} :
    progress.ending? = none ↔ ∃ stage, progress = .blocked stage := by
  cases progress <;> simp [Progress.ending?]

/-- A load does not cancel its own caller. -/
theorem Progress.ending?_ne_cancelled {progress : Progress σ ρ} :
    progress.ending? ≠ some .cancelled := by
  cases progress <;> simp [Progress.ending?]

/-- Only an ending with a result leaves one. -/
theorem Ending.result?_eq_some {ending : Ending ρ} {result : ρ} :
    ending.result? = some result ↔ ending = .returned result := by
  cases ending <;> simp [Ending.result?]

namespace Phase

@[simp] theorem leads_leading {ticket own : Nat} {stage : σ} :
    (Phase.leading own stage : Phase σ ρ).leads ticket ↔ own = ticket := by
  simp [leads]

@[simp] theorem not_leads_waiting {ticket own : Nat} :
    ¬ (Phase.waiting own : Phase σ ρ).leads ticket := by
  simp [leads]

@[simp] theorem not_leads_told {ticket : Nat} {result : Option ρ} :
    ¬ (Phase.told result : Phase σ ρ).leads ticket := by
  simp [leads]

theorem isLeading_iff {phase : Phase σ ρ} : phase.isLeading ↔ ∃ ticket, phase.leads ticket := by
  cases phase <;> simp [isLeading]

theorem isWaiting_iff {phase : Phase σ ρ} :
    phase.isWaiting ↔ ∃ ticket, phase = .waiting ticket := by
  cases phase <;> simp [isWaiting]

theorem isTold_iff {phase : Phase σ ρ} : phase.isTold ↔ ∃ result, phase = .told result := by
  cases phase <;> simp [isTold]

theorem isLeading_of_isWaiting {phase : Phase σ ρ} (waits : phase.isWaiting) :
    phase.isLeading = false := by
  cases phase with
  | leading ticket stage => cases waits
  | waiting ticket => rfl
  | told result => rfl

theorem ticket?_of_leads {phase : Phase σ ρ} {ticket : Nat} (leads : phase.leads ticket) :
    phase.ticket? = some ticket := by
  obtain ⟨stage, rfl⟩ := leads
  rfl

theorem leads_or_waits {phase : Phase σ ρ} {ticket : Nat} (holds : phase.ticket? = some ticket) :
    phase.leads ticket ∨ phase = .waiting ticket := by
  cases phase with
  | leading own stage => exact .inl (leads_leading.mpr (Option.some.inj holds))
  | waiting own => exact .inr (congrArg _ (Option.some.inj holds))
  | told result => cases holds

/-- Telling changes the phase of a caller only if it waits for this load. -/
theorem tell_cases (phase : Phase σ ρ) (ticket : Nat) (result : Option ρ) :
    (phase = .waiting ticket ∧ phase.tell ticket result = .told result) ∨
      (phase ≠ .waiting ticket ∧ phase.tell ticket result = phase) := by
  cases phase with
  | leading own stage => exact .inr ⟨by simp, rfl⟩
  | waiting own =>
      by_cases same : own = ticket
      · exact .inl ⟨by rw [same], by rw [tell, if_pos same]⟩
      · exact .inr ⟨by simpa using same, by rw [tell, if_neg same]⟩
  | told own => exact .inr ⟨by simp, rfl⟩

@[simp] theorem leads_tell {phase : Phase σ ρ} {ticket other : Nat} {result : Option ρ} :
    (phase.tell ticket result).leads other ↔ phase.leads other := by
  rcases phase.tell_cases ticket result with ⟨waits, told⟩ | ⟨_, same⟩
  · rw [told, waits]
    simp
  · rw [same]

end Phase

/-! ## Parts of a flight -/

namespace Flight

variable {flight : Flight ω κ σ ρ} {caller other : Caller κ σ ρ} {id ticket : Nat}
  {key : String} {result : Option ρ}

@[simp] theorem mem_callers_add :
    other ∈ (flight.add caller).callers ↔ other ∈ flight.callers ∨ other = caller := by
  simp [add]

@[simp] theorem mem_callers_remove :
    other ∈ (flight.remove id).callers ↔ other ∈ flight.callers ∧ other.id ≠ id := by
  simp [remove]

@[simp] theorem mem_callers_release :
    other ∈ (flight.release key ticket result).callers ↔
      ∃ before ∈ flight.callers, before.tell ticket result = other := by
  simp [release, Caller.tell]

@[simp] theorem mem_records_release {record : String × Nat} :
    record ∈ (flight.release key ticket result).records ↔
      record ∈ flight.records ∧ record.1 ≠ key := by
  simp [release]

@[simp] theorem records_add : (flight.add caller).records = flight.records := rfl
@[simp] theorem records_remove : (flight.remove id).records = flight.records := rfl
@[simp] theorem world_add : (flight.add caller).world = flight.world := rfl
@[simp] theorem world_remove : (flight.remove id).world = flight.world := rfl
@[simp] theorem world_release : (flight.release key ticket result).world = flight.world := rfl
@[simp] theorem nextTicket_add : (flight.add caller).nextTicket = flight.nextTicket := rfl
@[simp] theorem nextTicket_remove : (flight.remove id).nextTicket = flight.nextTicket := rfl
@[simp] theorem nextTicket_release :
    (flight.release key ticket result).nextTicket = flight.nextTicket := rfl
@[simp] theorem nextCaller_add : (flight.add caller).nextCaller = flight.nextCaller := rfl
@[simp] theorem nextCaller_remove : (flight.remove id).nextCaller = flight.nextCaller := rfl
@[simp] theorem nextCaller_release :
    (flight.release key ticket result).nextCaller = flight.nextCaller := rfl

end Flight

namespace Caller

variable {caller : Caller κ σ ρ} {ticket : Nat} {result : Option ρ}

@[simp] theorem id_tell : (caller.tell ticket result).id = caller.id := rfl
@[simp] theorem key_tell : (caller.tell ticket result).key = caller.key := rfl
@[simp] theorem plan_tell : (caller.tell ticket result).plan = caller.plan := rfl
@[simp] theorem phase_tell : (caller.tell ticket result).phase = caller.phase.tell ticket result :=
  rfl

end Caller

end RingCache
