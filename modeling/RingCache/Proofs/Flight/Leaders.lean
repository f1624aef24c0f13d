import Mathlib.Data.Finset.Card
import RingCache.Proofs.Flight.Settling

/-!
# One leader for each key, and no stranded waiter

What `Sound` says of a flight, in the words of its users: a key has at most one
leader, it has a record exactly while it has one, and who waits does so for a
load that somebody leads. Every flight of a run is sound (`Run.sound`).
-/

namespace RingCache

variable {ω κ σ γ ρ α : Type} {loads : Loads ω κ σ γ ρ} {act : ω → α → ω}

namespace Flight.Sound

variable {flight : Flight ω κ σ ρ}

/-- A key has a record exactly while somebody leads its load. -/
theorem recorded_iff (sound : flight.Sound) (key : String) :
    key ∈ flight.records.map Prod.fst ↔
      ∃ leader ∈ flight.callers, leader.key = key ∧ leader.phase.isLeading := by
  constructor
  · intro recorded
    obtain ⟨record, found, rfl⟩ := List.mem_map.mp recorded
    obtain ⟨leader, present, sameKey, leads⟩ := sound.led record found
    exact ⟨leader, present, sameKey, Phase.isLeading_iff.mpr ⟨record.2, leads⟩⟩
  · rintro ⟨leader, present, rfl, leading⟩
    obtain ⟨ticket, leads⟩ := Phase.isLeading_iff.mp leading
    have recorded := sound.recorded leader present ticket (Phase.ticket?_of_leads leads)
    exact List.mem_map.mpr ⟨_, recorded, rfl⟩

/-- The loads in flight are as many as the keys with a leader. -/
theorem inFlight_eq (sound : flight.Sound) :
    flight.inFlight =
      ((flight.callers.filter fun caller => caller.phase.isLeading).map
        Caller.key).toFinset.card := by
  have sameKeys : ((flight.callers.filter fun caller => caller.phase.isLeading).map
      Caller.key).toFinset = (flight.records.map Prod.fst).toFinset := by
    ext key
    rw [List.mem_toFinset, List.mem_toFinset, sound.recorded_iff key]
    simp only [List.mem_map, List.mem_filter]
    constructor
    · rintro ⟨leader, ⟨present, leading⟩, sameKey⟩
      exact ⟨leader, present, sameKey, leading⟩
    · rintro ⟨leader, present, sameKey, leading⟩
      exact ⟨leader, ⟨present, leading⟩, sameKey⟩
  rw [sameKeys, List.toFinset_card_of_nodup sound.keysDiffer, List.length_map, inFlight]

/-- Who waits does so for a load of its key that somebody leads. -/
theorem waits_for_leader (sound : flight.Sound) {waiter : Caller κ σ ρ} {ticket : Nat}
    (present : waiter ∈ flight.callers) (waits : waiter.phase = .waiting ticket) :
    (waiter.key, ticket) ∈ flight.records ∧
      ∃ leader ∈ flight.callers, leader.key = waiter.key ∧ leader.phase.leads ticket := by
  have recorded := sound.recorded waiter present ticket (by rw [waits]; rfl)
  exact ⟨recorded, sound.led _ recorded⟩

/-- Who leads the load that somebody waits for leads it for the same key. -/
theorem leader_key (sound : flight.Sound) {leader waiter : Caller κ σ ρ} {ticket : Nat}
    (leading : leader ∈ flight.callers) (leads : leader.phase.leads ticket)
    (present : waiter ∈ flight.callers) (waits : waiter.phase = .waiting ticket) :
    leader.key = waiter.key :=
  sound.sameKey (sound.recorded leader leading ticket (Phase.ticket?_of_leads leads))
    (sound.recorded waiter present ticket (by rw [waits]; rfl))

/-- The caller that leads the load of a key is found. -/
theorem leader?_of_leads (sound : flight.Sound) {leader : Caller κ σ ρ}
    (leading : leader ∈ flight.callers) (leads : leader.phase.isLeading) :
    flight.leader? leader.key = some leader := by
  cases found : flight.leader? leader.key with
  | none =>
      rw [leader?_eq_none found leader leading rfl] at leads
      cases leads
  | some other =>
      obtain ⟨present, sameKey, ticket, stage, phase⟩ := leader?_eq_some found
      have otherLeads : other.phase.isLeading := Phase.isLeading_iff.mpr ⟨ticket, stage, phase⟩
      rw [sound.sameLeader present leading otherLeads leads sameKey]

end Flight.Sound

namespace Run

/-- Every flight of a run is sound. -/
theorem sound (run : Run loads act) (index : Nat) : (run.state index).Sound := by
  induction index with
  | zero => exact .empty run.world
  | succ index inductionHypothesis =>
      exact (inductionHypothesis.effect loads act (run.happening index)).sound inductionHypothesis

/-- Every happening of a run has one of the effects. -/
theorem effect (run : Run loads act) (index : Nat) :
    Flight.Effect loads act (run.state index) (run.happening index) (run.state (index + 1))
      (run.notices index) :=
  (run.sound index).effect loads act (run.happening index)

/-- At all times of a run, a key has at most one leader, and a record exactly
while it has one, so that the loads in flight are as many as the keys with a
leader. A record goes only when its own leader ends. And once everybody who was
told has gone on, every caller that does not lead waits for a load of its key that
has a record and that somebody leads. -/
theorem one_leader_no_stranded_waiter (run : Run loads act) (index : Nat) :
    (∀ one ∈ (run.state index).callers, ∀ other ∈ (run.state index).callers,
        one.phase.isLeading → other.phase.isLeading → one.key = other.key → one = other) ∧
      (∀ key, key ∈ (run.state index).records.map Prod.fst ↔
        ∃ leader ∈ (run.state index).callers, leader.key = key ∧ leader.phase.isLeading) ∧
      (run.state index).inFlight =
        (((run.state index).callers.filter fun caller => caller.phase.isLeading).map
          Caller.key).toFinset.card ∧
      (∀ record ∈ (run.state index).records, record ∉ (run.state (index + 1)).records →
        ∃ leader ∈ (run.state index).callers, leader.key = record.1 ∧
          leader.phase.leads record.2 ∧ (run.state (index + 1)).Gone leader.id ∧
          ∃ ending, .ended leader.id leader.key ending ∈ run.notices index) ∧
      ∀ follower ∈ ((run.state index).settle loads).1.callers,
        follower.phase.isLeading = false →
        ∃ ticket, follower.phase = .waiting ticket ∧
          (follower.key, ticket) ∈ ((run.state index).settle loads).1.records ∧
          ∃ leader ∈ ((run.state index).settle loads).1.callers,
            leader.key = follower.key ∧ leader.phase.leads ticket := by
  have sound := run.sound index
  refine ⟨?_, sound.recorded_iff, sound.inFlight_eq, ?_, ?_⟩
  · intro one onePresent other otherPresent oneLeading otherLeading sameKey
    exact sound.sameLeader onePresent otherPresent oneLeading otherLeading sameKey
  · intro record found removed
    exact (run.effect index).record_removed sound found removed
  · intro follower present follows
    have settled : ((run.state index).settle loads).1.Sound := sound.settle loads
    cases phase : follower.phase with
    | leading ticket stage =>
        rw [phase] at follows
        cases follows
    | waiting ticket => exact ⟨ticket, rfl, settled.waits_for_leader present phase⟩
    | told result => exact absurd (sound.told_settle loads) (Flight.told_ne_nil present phase)

end Run

end RingCache
