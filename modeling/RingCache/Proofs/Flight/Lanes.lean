import Mathlib.Data.List.Find
import RingCache.Proofs.Flight.Leaders
import RingCache.Proofs.Flight.Promises

/-!
# The part of a flight that belongs to one key

A happening is about one key at most (`Happening.key?`). What a flight shows of a key is
its lane: the callers of the key, under numbers that count these callers alone, and
without their tickets. `Mirrors` relates a flight into which all callers come to one
into which only the callers of a key come, by their lanes. A happening that is about
another key leaves the lane as it is (`Mirrors.rests`). A happening that is about the key
does the same to both flights, and the same is seen of it (`Mirrors.happens`), provided
that loads share no world.
-/

namespace RingCache

variable {ω κ σ γ ρ α : Type}

/-- A phase without its ticket. -/
def Phase.bare : Phase σ ρ → Phase σ ρ
  | .leading _ stage => .leading 0 stage
  | .waiting _ => .waiting 0
  | .told result => .told result

/-- A caller under another number, without its ticket. -/
def Caller.shown (number : Nat → Nat) (caller : Caller κ σ ρ) : Caller κ σ ρ :=
  ⟨number caller.id, caller.key, caller.plan, caller.phase.bare⟩

/-- A notice of a caller under another number. -/
def Notice.renumber (number : Nat → Nat) : Notice γ ρ → Notice γ ρ
  | .called caller call => .called (number caller) call
  | .ended caller key ending => .ended (number caller) key ending

/-- How many of those who came before a caller asked for a key, where the keys asked for are
listed in the order of the callers. -/
def rank (key : String) (asked : List String) (id : Nat) : Nat :=
  (asked.take id).count key

/-- The key that a new caller asks for, if one comes. -/
def Happening.comes : Happening α κ → List String
  | .event (.start key _) => [key]
  | _ => []

/-- The key that a happening is about. -/
def Happening.key? (asked : List String) : Happening α κ → Option String
  | .nothing => none
  | .event happened => some happened.key
  | .wake id => asked[id]?
  | .withdraw id => asked[id]?
  | .act _ => none

/-- The same to a caller under another number. -/
def Happening.renumber (number : Nat → Nat) : Happening α κ → Happening α κ
  | .wake id => .wake (number id)
  | .withdraw id => .withdraw (number id)
  | other => other

namespace Flight

/-- What a flight shows of a key: its callers in their order, under other numbers and
without their tickets. -/
def lane (flight : Flight ω κ σ ρ) (key : String) (number : Nat → Nat) : List (Caller κ σ ρ) :=
  (flight.callers.filter fun caller => caller.key == key).map (Caller.shown number)

/-- Whether these are the keys that callers have asked for, in the order of the callers. -/
structure Numbered (flight : Flight ω κ σ ρ) (asked : List String) : Prop where
  length_eq : asked.length = flight.nextCaller
  keyed : ∀ caller ∈ flight.callers, asked[caller.id]? = some caller.key

end Flight

namespace Happening

variable {key : String} {asked : List String}

/-- Who comes asks for the key that the happening is about. -/
theorem key?_of_comes (happening : Happening α κ) (comes : key ∈ happening.comes) :
    happening.key? asked = some key := by
  cases happening with
  | event event =>
      cases event with
      | start own plan => exact congrArg some (List.mem_singleton.mp comes).symm
      | finish own outcome => cases comes
      | cancelLeader own => cases comes
      | cancelWaiter own => cases comes
  | nothing => cases comes
  | wake id => cases comes
  | withdraw id => cases comes
  | act change => cases comes

/-- All who come ask for the key that the happening is about. -/
theorem comes_eq_replicate (happening : Happening α κ) (about : happening.key? asked = some key) :
    happening.comes = List.replicate (happening.comes.count key) key := by
  have same : ∀ own ∈ happening.comes, key = own := fun own comes =>
    Option.some.inj (about.symm.trans (happening.key?_of_comes comes))
  rw [List.count_eq_length.mpr same]
  exact List.eq_replicate_of_mem fun own comes => (same own comes).symm

@[simp] theorem comes_renumber (happening : Happening α κ) (number : Nat → Nat) :
    (happening.renumber number).comes = happening.comes := by
  cases happening <;> rfl

end Happening

/-! ## Numbers among the callers of a key -/

section Ranks

variable {key : String} {asked : List String} {one other : Nat}

/-- Those who come later do not change the numbers of those who came before. -/
theorem rank_append (within : one ≤ asked.length) (later : List String) :
    rank key (asked ++ later) one = rank key asked one := by
  rw [rank, List.take_append_of_le_length within, rank]

/-- The next caller is counted after all who asked for the key. -/
theorem rank_length : rank key asked asked.length = asked.count key := by
  rw [rank, List.take_length]

/-- Numbers stay when nobody comes. -/
theorem rank_comes {happening : Happening α κ} (nobody : happening.comes = []) :
    rank key (asked ++ happening.comes) = rank key asked := by
  rw [nobody, List.append_nil]

/-- A caller of the key is counted before those who come later. -/
theorem rank_lt_rank (isKey : asked[one]? = some key) (before : one < other) :
    rank key asked one < rank key asked other := by
  obtain ⟨within, same⟩ := List.getElem?_eq_some_iff.mp isKey
  have counted : (asked.take (one + 1)).count key = (asked.take one).count key + 1 := by
    rw [List.take_succ_eq_append_getElem within, List.count_append, same,
      List.count_singleton_self]
  have sublist : (asked.take (one + 1)).Sublist (asked.take other) :=
    (List.take_prefix_take_left before).sublist
  have most := sublist.count_le key
  rw [rank, rank]
  omega

/-- Callers of a key differ in their numbers among its callers. -/
theorem eq_of_rank_eq (oneKey : asked[one]? = some key) (otherKey : asked[other]? = some key)
    (same : rank key asked one = rank key asked other) : one = other := by
  rcases Nat.lt_trichotomy one other with before | isSame | after
  · have less := rank_lt_rank oneKey before
    omega
  · exact isSame
  · have less := rank_lt_rank otherKey after
    omega

end Ranks

namespace Phase

variable {phase other : Phase σ ρ}

@[simp] theorem isLeading_bare : phase.bare.isLeading = phase.isLeading := by
  cases phase <;> rfl

@[simp] theorem isWaiting_bare : phase.bare.isWaiting = phase.isWaiting := by
  cases phase <;> rfl

@[simp] theorem isTold_bare : phase.bare.isTold = phase.isTold := by
  cases phase <;> rfl

/-- A phase is known but for its ticket. -/
theorem eq_leading_of_bare {ticket : Nat} {stage : σ}
    (same : phase.bare = (Phase.leading ticket stage : Phase σ ρ).bare) :
    ∃ own, phase = .leading own stage := by
  cases phase with
  | leading own stage =>
      obtain ⟨-, rfl⟩ := Phase.leading.inj same
      exact ⟨own, rfl⟩
  | waiting own => cases same
  | told result => cases same

theorem eq_told_of_bare {result : Option ρ}
    (same : phase.bare = (Phase.told result : Phase σ ρ).bare) : phase = .told result := by
  cases phase with
  | leading own stage => cases same
  | waiting own => cases same
  | told result => exact same

end Phase

/-! ## Lanes -/

namespace Flight

variable {flight : Flight ω κ σ ρ} {caller : Caller κ σ ρ} {key : String} {number : Nat → Nat}
  {ticket : Nat} {result : Option ρ}

theorem mem_lane {shown : Caller κ σ ρ} :
    shown ∈ flight.lane key number ↔
      ∃ caller ∈ flight.callers, caller.key = key ∧ caller.shown number = shown := by
  simp [lane, and_assoc]

/-- The lane depends on the numbers of the callers that are there. -/
theorem lane_congr {other : Nat → Nat}
    (same : ∀ caller ∈ flight.callers, caller.key = key → number caller.id = other caller.id) :
    flight.lane key number = flight.lane key other := by
  refine List.map_congr_left fun caller mem => ?_
  obtain ⟨present, isKey⟩ := List.mem_filter.mp mem
  rw [Caller.shown, Caller.shown, same caller present (by simpa using isKey)]

/-- A new caller of the key comes last in the lane. -/
theorem lane_add_own (isKey : caller.key = key) :
    (flight.add caller).lane key number = flight.lane key number ++ [caller.shown number] := by
  simp [lane, add, isKey]

/-- A new caller of another key is not in the lane. -/
theorem lane_add_other (differs : caller.key ≠ key) :
    (flight.add caller).lane key number = flight.lane key number := by
  simp [lane, add, differs]

/-- If a caller of the key goes, it goes from the lane. -/
theorem lane_remove_own {id : Nat}
    (unique : ∀ caller ∈ flight.callers, caller.key = key → number caller.id = number id →
      caller.id = id) :
    (flight.remove id).lane key number =
      (flight.lane key number).filter fun caller => caller.id != number id := by
  rw [lane, lane, Flight.remove, List.filter_map, List.filter_filter, List.filter_filter]
  refine congrArg _ (List.filter_congr fun caller present => ?_)
  rw [Bool.eq_iff_iff]
  simp only [Bool.and_eq_true, bne_iff_ne, beq_iff_eq, Function.comp_apply, Caller.shown]
  constructor
  · rintro ⟨isKey, differs⟩
    exact ⟨fun same => differs (unique caller present isKey same), isKey⟩
  · rintro ⟨differs, isKey⟩
    exact ⟨isKey, fun same => differs (congrArg number same)⟩

/-- If a caller of another key goes, the lane stays. -/
theorem Sound.lane_remove_other (sound : flight.Sound) (present : caller ∈ flight.callers)
    (differs : caller.key ≠ key) :
    (flight.remove caller.id).lane key number = flight.lane key number := by
  rw [lane, lane, Flight.remove, List.filter_filter]
  refine congrArg _ (List.filter_congr fun other otherPresent => ?_)
  by_cases isKey : other.key = key
  · have otherNumber : other.id ≠ caller.id := fun same =>
      differs (sound.sameCaller otherPresent present same ▸ isKey)
    simp [isKey, otherNumber]
  · simp [isKey]

/-- A load that ends tells only those who wait for it. -/
theorem lane_release {released : String} :
    (flight.release released ticket result).lane key number =
      (flight.callers.filter fun caller => caller.key == key).map fun caller =>
        (caller.tell ticket result).shown number := by
  rw [lane, release, List.filter_map, List.map_map]
  rfl

/-- If the load of the key ends, everybody in the lane who waits is told. -/
theorem lane_release_own (held : ∀ caller ∈ flight.callers, caller.key = key →
      ∀ own, caller.phase = .waiting own → own = ticket) :
    (flight.release key ticket result).lane key number =
      (flight.lane key number).map fun caller => caller.tell 0 result := by
  rw [lane_release, lane, List.map_map]
  refine List.map_congr_left fun caller mem => ?_
  obtain ⟨present, isKey⟩ := List.mem_filter.mp mem
  have own := held caller present (by simpa using isKey)
  obtain ⟨id, key, plan, phase⟩ := caller
  cases phase with
  | leading ticket stage => rfl
  | waiting ticket =>
      obtain rfl := own ticket rfl
      simp [Caller.shown, Caller.tell, Phase.bare, Phase.tell]
  | told result => rfl

/-- If the load of another key ends, the lane stays. -/
theorem lane_release_other {released : String}
    (unheld : ∀ caller ∈ flight.callers, caller.key = key → caller.phase ≠ .waiting ticket) :
    (flight.release released ticket result).lane key number = flight.lane key number := by
  rw [lane_release, lane]
  refine List.map_congr_left fun caller mem => ?_
  obtain ⟨present, isKey⟩ := List.mem_filter.mp mem
  rcases caller.phase.tell_cases ticket result with ⟨waits, _⟩ | ⟨_, same⟩
  · exact absurd waits (unheld caller present (by simpa using isKey))
  · rw [Caller.tell, same]

/-- If a leader of another key goes and its load ends, the lane stays. -/
theorem Sound.lane_conclude_other (sound : flight.Sound) (present : caller ∈ flight.callers)
    (differs : caller.key ≠ key) (leads : caller.phase.leads ticket) (world : ω)
    (result : Option ρ) :
    (Flight.release { flight.remove caller.id with world := world } caller.key ticket
      result).lane key number = flight.lane key number := by
  refine (lane_release_other fun waiter stays isKey waits => differs ?_).trans
    (sound.lane_remove_other present differs)
  rw [sound.leader_key present leads (mem_callers_remove.mp stays).1 waits, isKey]

/-- Who is found in the lane is found in the flight. -/
theorem find?_lane {found shows : Caller κ σ ρ → Bool}
    (same : ∀ caller ∈ flight.callers,
      (caller.key == key && shows (caller.shown number)) = found caller) :
    (flight.lane key number).find? shows =
      (flight.callers.find? found).map (Caller.shown number) := by
  rw [lane, List.find?_map, List.find?_filter]
  refine congrArg _ (List.find?_congr fun caller present => ?_)
  rw [← same caller present]
  simp [beq_eq_decide]

/-- A key has a record exactly while somebody in its lane leads. -/
theorem Sound.recorded_iff_lane (sound : flight.Sound) (number : Nat → Nat) :
    key ∈ flight.records.map Prod.fst ↔
      ∃ caller ∈ flight.lane key number, caller.phase.isLeading := by
  rw [sound.recorded_iff key]
  constructor
  · rintro ⟨leader, present, isKey, leading⟩
    exact ⟨_, mem_lane.mpr ⟨leader, present, isKey, rfl⟩, by simpa [Caller.shown] using leading⟩
  · rintro ⟨shown, mem, leading⟩
    obtain ⟨leader, present, isKey, rfl⟩ := mem_lane.mp mem
    exact ⟨leader, present, isKey, by simpa [Caller.shown] using leading⟩

/-- Looking a key up finds nothing exactly if it has no record. -/
theorem lookup_eq_none_iff :
    flight.records.lookup key = none ↔ key ∉ flight.records.map Prod.fst := by
  rw [List.lookup_eq_none_iff, List.mem_map]
  constructor
  · rintro differs ⟨record, found, rfl⟩
    simpa using differs record found
  · intro missing record found
    have differs : key ≠ record.1 := fun same => missing ⟨record, found, same.symm⟩
    simpa using differs

/-! ## What a happening does to a lane -/

variable {loads : Loads ω κ σ γ ρ} {act : ω → α → ω} {base next : Flight ω κ σ ρ}
  {happening : Happening α κ} {notices : List (Notice γ ρ)} {asked : List String}

/-- A caller has the key that it asked for, whoever comes later. -/
theorem Numbered.keyed_append (numbered : flight.Numbered asked) (present : caller ∈ flight.callers)
    (later : List String) : (asked ++ later)[caller.id]? = some caller.key := by
  have keyed := numbered.keyed caller present
  obtain ⟨within, _⟩ := List.getElem?_eq_some_iff.mp keyed
  rw [List.getElem?_append_left within, keyed]

/-- Who enters is a caller of the key that the happening is about, and nobody else comes. -/
theorem Entrant.about {id : Nat} {plan : κ}
    (entrant : Entrant loads flight happening id key plan base)
    (numbered : flight.Numbered asked) :
    happening.key? asked = some key ∧ (asked ++ happening.comes)[id]? = some key ∧
      base.nextCaller = flight.nextCaller + happening.comes.length := by
  cases entrant with
  | fresh key plan missed =>
      refine ⟨rfl, ?_, rfl⟩
      rw [← numbered.length_eq, List.getElem?_append_right (Nat.le_refl _), Nat.sub_self]
      rfl
  | woken caller present told =>
      exact ⟨numbered.keyed caller present, numbered.keyed_append present _, rfl⟩

/-- Who enters for another key does not change the lane of a key. -/
theorem Entrant.lane_eq {id : Nat} {own : String} {plan : κ}
    (entrant : Entrant loads flight happening id own plan base) (sound : flight.Sound)
    (numbered : flight.Numbered asked) (other : happening.key? asked ≠ some key) :
    own ≠ key ∧ base.lane key number = flight.lane key number := by
  have differs : own ≠ key := fun same => other (same ▸ (entrant.about numbered).1)
  refine ⟨differs, ?_⟩
  cases entrant with
  | fresh own plan missed => rfl
  | woken caller present told => exact sound.lane_remove_other present differs

namespace Effect

/-- As many callers come as ask for a key. -/
theorem nextCaller_eq (effect : Effect loads act flight happening next notices)
    (numbered : flight.Numbered asked) :
    next.nextCaller = flight.nextCaller + happening.comes.length := by
  cases effect with
  | idle happening moot =>
      cases happening with
      | event event =>
          cases event with
          | start key plan => exact absurd moot not_false
          | finish key outcome => rfl
          | cancelLeader key => rfl
          | cancelWaiter key => rfl
      | nothing => rfl
      | wake id => rfl
      | withdraw id => rfl
      | act change => rfl
  | acted change => rfl
  | answered key plan result greeted => rfl
  | joined entrant ticket found => exact (entrant.about numbered).2.2
  | opened entrant free world calls stage started => exact (entrant.about numbered).2.2
  | passed entrant free world calls progress ending started ends =>
      exact (entrant.about numbered).2.2
  | advanced leader present ticket stage leads outcome world calls next resumed => rfl
  | concluded leader present ticket stage leads outcome world calls progress ending resumed ends =>
      rfl
  | abandoned leader present ticket stage leads => rfl
  | shared caller present result told => rfl
  | withdrawn happening caller present follows cancelled =>
      rcases cancelled with ⟨rfl, _⟩ | rfl <;> rfl

/-- Callers are of the keys that they asked for, also the new one. -/
theorem numbered (effect : Effect loads act flight happening next notices)
    (numbered : flight.Numbered asked) : next.Numbered (asked ++ happening.comes) := by
  have grown := effect.nextCaller_eq numbered
  refine ⟨by rw [List.length_append, numbered.length_eq, grown], fun after present => ?_⟩
  rcases effect.origin present with ⟨before, beforePresent, sameId, sameKey, _⟩ |
    ⟨_, _, ⟨base, entrant⟩, _⟩
  · rw [← sameId, ← sameKey]
    exact numbered.keyed_append beforePresent _
  · exact (entrant.about numbered).2.1

/-- All that is seen is seen of callers of the key that the happening is about. -/
theorem about (effect : Effect loads act flight happening next notices)
    (numbered : flight.Numbered asked) {notice : Notice γ ρ} (mem : notice ∈ notices) :
    ∃ key, happening.key? asked = some key ∧
      (asked ++ happening.comes)[notice.caller]? = some key := by
  cases effect with
  | idle happening moot => cases mem
  | acted change => cases mem
  | answered key plan result greeted =>
      refine ⟨key, rfl, ?_⟩
      rw [List.mem_singleton.mp mem, Notice.caller, ← numbered.length_eq,
        List.getElem?_append_right (Nat.le_refl _), Nat.sub_self]
      rfl
  | joined entrant ticket found => cases mem
  | opened entrant free world calls stage started =>
      obtain ⟨isAbout, asks, _⟩ := entrant.about numbered
      obtain ⟨call, rfl⟩ := of_mem_calls mem
      exact ⟨_, isAbout, asks⟩
  | passed entrant free world calls progress ending started ends =>
      obtain ⟨isAbout, asks, _⟩ := entrant.about numbered
      rw [caller_of_mem_calls_end mem]
      exact ⟨_, isAbout, asks⟩
  | advanced leader present ticket stage leads outcome world calls next resumed =>
      obtain ⟨call, rfl⟩ := of_mem_calls mem
      exact ⟨leader.key, rfl, numbered.keyed_append present _⟩
  | concluded leader present ticket stage leads outcome world calls progress ending resumed ends =>
      rw [caller_of_mem_calls_end mem]
      exact ⟨leader.key, rfl, numbered.keyed_append present _⟩
  | abandoned leader present ticket stage leads =>
      rw [List.mem_singleton.mp mem]
      exact ⟨leader.key, rfl, numbered.keyed_append present _⟩
  | shared caller present result told =>
      rw [List.mem_singleton.mp mem]
      exact ⟨caller.key, numbered.keyed caller present, numbered.keyed_append present _⟩
  | withdrawn happening caller present follows cancelled =>
      rw [List.mem_singleton.mp mem]
      refine ⟨caller.key, ?_, numbered.keyed_append present _⟩
      rcases cancelled with ⟨rfl, _⟩ | rfl
      · rfl
      · exact numbered.keyed caller present

/-- A happening that is about another key leaves the lane of a key as it is. -/
theorem lane_eq (effect : Effect loads act flight happening next notices) (sound : flight.Sound)
    (numbered : flight.Numbered asked) (other : happening.key? asked ≠ some key) :
    next.lane key number = flight.lane key number := by
  cases effect with
  | idle happening moot => rfl
  | acted change => rfl
  | answered key plan result greeted => rfl
  | joined entrant ticket found =>
      obtain ⟨differs, same⟩ := entrant.lane_eq sound numbered other
      rw [lane_add_other differs, same]
  | opened entrant free world calls stage started =>
      obtain ⟨differs, same⟩ := entrant.lane_eq sound numbered other
      exact (lane_add_other differs).trans same
  | passed entrant free world calls progress ending started ends =>
      exact (entrant.lane_eq sound numbered other).2
  | advanced leader present ticket stage leads outcome world calls next resumed =>
      have differs : leader.key ≠ key := fun same => other (congrArg some same)
      refine (lane_add_other ?_).trans (sound.lane_remove_other present differs)
      exact differs
  | concluded leader present ticket stage leads outcome world calls progress ending resumed ends =>
      have differs : leader.key ≠ key := fun same => other (congrArg some same)
      exact sound.lane_conclude_other present differs ⟨stage, leads⟩ world _
  | abandoned leader present ticket stage leads =>
      have differs : leader.key ≠ key := fun same => other (congrArg some same)
      exact sound.lane_conclude_other present differs ⟨stage, leads⟩ flight.world none
  | shared caller present result told =>
      refine sound.lane_remove_other present fun same => other ?_
      exact (numbered.keyed caller present).trans (congrArg some same)
  | withdrawn happening caller present follows cancelled =>
      refine sound.lane_remove_other present fun same => other ?_
      rcases cancelled with ⟨rfl, _⟩ | rfl
      · exact congrArg some same
      · exact (numbered.keyed caller present).trans (congrArg some same)

end Effect

end Flight

end RingCache
