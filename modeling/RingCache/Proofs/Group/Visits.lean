import RingCache.Proofs.Group.Accounts

/-!
# What a happening does with one lookup

Every happening is about one lookup at most: the lookup has just come or is taken
out of the group (`InHand`), makes calls, and stays or ends. Such a `Visit` is all
that the counters see of it: `Books` says how a visit changes them, and
`entry_of_effect` that every happening changes nothing that is counted, or books a
visit.
-/

namespace RingCache

/-! ## Counting callers -/

namespace Flight

variable {ω κ σ ρ : Type} {flight : Flight ω κ σ ρ}

/-- A caller that goes was counted once. -/
theorem Sound.countP_remove (sound : flight.Sound) {caller : Caller κ σ ρ}
    (present : caller ∈ flight.callers) (counted : Caller κ σ ρ → Bool) :
    (flight.remove caller.id).callers.countP counted + (if counted caller then 1 else 0) =
      flight.callers.countP counted := by
  -- No other caller has the same number, so that the caller alone is filtered out.
  obtain ⟨front, back, split⟩ := List.append_of_mem present
  have numbersDiffer := sound.callersDiffer
  rw [split, List.map_append, List.map_cons, List.nodup_append, List.nodup_cons] at numbersDiffer
  obtain ⟨_, ⟨notBehind, _⟩, notBefore⟩ := numbersDiffer
  have frontStays : front.filter (fun other => other.id != caller.id) = front := by
    refine List.filter_eq_self.mpr fun other mem => ?_
    have differs := notBefore other.id (List.mem_map_of_mem mem) caller.id List.mem_cons_self
    simpa using differs
  have backStays : back.filter (fun other => other.id != caller.id) = back := by
    refine List.filter_eq_self.mpr fun other mem => ?_
    have differs : other.id ≠ caller.id := fun same =>
      notBehind (same ▸ List.mem_map_of_mem mem)
    simpa using differs
  have others : (flight.remove caller.id).callers = front ++ back := by
    rw [Flight.remove, split, List.filter_append, List.filter_cons_of_neg (by simp), frontStays,
      backStays]
  rw [others, split, List.countP_append, List.countP_append, List.countP_cons]
  omega

end Flight

/-- The kind of the call that a lookup waits for, if it makes a pass. -/
def Phase.kind? : Phase Stage Result → Option CallKind
  | .leading _ stage => some stage.kind
  | .waiting _ => none
  | .told _ => none

@[simp] theorem Phase.kind?_tell (phase : Phase Stage Result) (ticket : Nat)
    (result : Option Result) : (phase.tell ticket result).kind? = phase.kind? := by
  rcases phase.tell_cases ticket result with ⟨waits, told⟩ | ⟨_, same⟩
  · rw [told, waits]
    rfl
  · rw [same]

namespace Group

/-- How many lookups of a group wait for a call of a kind, or make no pass. -/
def standing (group : Group) (stood : Option CallKind) : Nat :=
  group.callers.countP fun caller => caller.phase.kind? = stood

variable {group base next : Group} {stood : Option CallKind}

theorem standing_add (group : Group) (caller : Caller Unit Stage Result)
    (stood : Option CallKind) :
    standing (group.add caller) stood =
      group.standing stood + tally (some caller.phase.kind?) stood := by
  simp [standing, Flight.add, tally, List.countP_append, List.countP_singleton]

theorem standing_remove (sound : group.Sound) {caller : Caller Unit Stage Result}
    (present : caller ∈ group.callers) (stood : Option CallKind) :
    standing (group.remove caller.id) stood + tally (some caller.phase.kind?) stood =
      group.standing stood := by
  have counted := sound.countP_remove present fun other => other.phase.kind? = stood
  simpa [standing, tally] using counted

theorem standing_release (group : Group) (key : String) (ticket : Nat) (result : Option Result)
    (stood : Option CallKind) :
    standing (group.release key ticket result) stood = group.standing stood := by
  simp [standing, Flight.release, List.countP_map, Function.comp_def]

/-- Every lookup of a group stands somewhere. -/
theorem length_callers (group : Group) :
    group.callers.length =
      group.standing none + group.standing (some .fetch) + group.standing (some .load) := by
  unfold standing
  induction group.callers with
  | nil => rfl
  | cons caller rest inductionHypothesis =>
      rw [List.length_cons, inductionHypothesis, List.countP_cons, List.countP_cons,
        List.countP_cons]
      rcases caller.phase.kind? with _ | _ | _ <;> simp <;> omega

end Group

/-! ## Visits -/

/-- A lookup that has ended. -/
structure Departure where
  /-- The number of the lookup. -/
  id : Nat
  /-- Whether it had just come when it ended. -/
  isNew : Bool
  /-- The kind of the last call of its pass, if it made one. -/
  last? : Option CallKind
  /-- How it ended. -/
  ending : Ending Result

/-- What a happening does with a lookup. -/
structure Visit where
  /-- The number of the lookup. -/
  id : Nat
  /-- Where it stood, unless it has just come. -/
  before : Option (Option CallKind)
  /-- What it calls. -/
  calls : List Call
  /-- How it ends, unless it stays. -/
  ending? : Option (Ending Result)

/-- What can be counted when a lookup ends. -/
def Counter.ofEndings : List Counter :=
  [.hit, .sharedLoad, .peerLoad, .localLoad, .localError]

namespace Departure

/-- What is counted for a lookup that has ended: the answer to its own last call, if
it made a pass; that it shared the load of another, if it got its result later; or
that it was a hit. -/
def counter? (departure : Departure) : Option Counter :=
  match departure.last?, departure.ending with
  | some kind, ending => kind.counter? ending
  | none, .returned (.ok _) => some (if departure.isNew then .hit else .sharedLoad)
  | none, .returned (.error _) => if departure.isNew then none else some .sharedLoad
  | none, .cancelled => none
  | none, .crashed => none

/-- Whether a lookup was cancelled or crashed. -/
def isLost (departure : Departure) : Bool :=
  match departure.ending with
  | .returned _ => false
  | .cancelled => true
  | .crashed => true

end Departure

namespace Visit

/-- The kind of the last call of the lookup. -/
def last? (visit : Visit) : Option CallKind :=
  CallKind.last? visit.before.join visit.calls

/-- Where the lookup stands afterwards, if it stays. -/
def after (visit : Visit) : Option (Option CallKind) :=
  match visit.ending? with
  | none => some visit.last?
  | some _ => none

/-- The lookup, if it has ended. -/
def departure? (visit : Visit) : Option Departure :=
  visit.ending?.map (⟨visit.id, visit.before.isNone, visit.last?, ·⟩)

/-- Whether the lookup has just come and was not answered at once. -/
def misses (visit : Visit) : Bool :=
  visit.before.isNone && !(visit.ending?.isSome && visit.last?.isNone)

/-- The counter of the end of the lookup, if it has ended. -/
def counter? (visit : Visit) : Option Counter :=
  visit.departure?.bind Departure.counter?

/-- The kind of the call that has not been answered, if there is one. -/
def open? (visit : Visit) : Option CallKind :=
  match visit.ending? with
  | none => visit.last?
  | some (.returned _) => none
  | some .cancelled => visit.last?
  | some .crashed => visit.last?

end Visit

/-- Whether a happening is a lookup that is counted. -/
def Happening.isLookup : Happening (Option Picker) Unit → Bool
  | .event (.start key _) => !key.isEmpty
  | _ => false

namespace Group

variable {group base next : Group} {happening : Happening (Option Picker) Unit}
  {notices : List (Notice Call Result)} {id : Nat} {before : Option (Option CallKind)}

/-- One lookup has just come and was not answered at once, or it is taken out of
the group; what is left is the base. -/
inductive InHand (group : Group) (happening : Happening (Option Picker) Unit) :
    Group → Nat → Option (Option CallKind) → Prop where
  | fresh (key : String) (plan : Unit) (isStart : happening = .event (.start key plan))
      (missed : (group.world.greet key).2 = none) :
      InHand group happening
        { group with world := (group.world.greet key).1, nextCaller := group.nextCaller + 1 }
        group.nextCaller none
  | taken (caller : Caller Unit Stage Result) (present : caller ∈ group.callers)
      (notLookup : happening.isLookup = false) :
      InHand group happening (group.remove caller.id) caller.id (some caller.phase.kind?)

/-- What a visit changes, and what can be seen of it. -/
structure Books (group : Group) (happening : Happening (Option Picker) Unit) (next : Group)
    (notices : List (Notice Call Result)) (visit : Visit) : Prop where
  /-- The lookup has just come, or stood there. -/
  origin : (visit.before = none ∧ visit.id = group.nextCaller) ∨
    ∃ caller ∈ group.callers, caller.id = visit.id ∧ visit.before = some caller.phase.kind?
  /-- Its calls and its end are seen, and nothing else. -/
  seen : ∃ key, notices =
    visit.calls.map (.called visit.id) ++ (visit.ending?.map (.ended visit.id key)).toList
  /-- It moves, and the others stand where they stood. -/
  heads : ∀ stood, next.standing stood + tally visit.before stood =
    group.standing stood + tally visit.after stood
  /-- It is counted when it comes with a key. -/
  gets : next.world.counters.gets = group.world.counters.gets + happening.isLookup.toNat
  /-- It is counted when it misses. -/
  loads : next.world.counters.loads = group.world.counters.loads + visit.misses.toNat
  /-- If it comes with a key, it misses or is a hit. -/
  isLookup : happening.isLookup.toNat = visit.misses.toNat + tally visit.counter? .hit
  /-- It is counted when it ends. -/
  ends : ∀ counter ∈ Counter.ofEndings, next.world.counters.value counter =
    group.world.counters.value counter + tally visit.counter? counter
  /-- Its calls are answered, but for the one that is open. -/
  answers : ∀ kind,
    group.world.counters.answered kind + tally visit.before.join kind +
        visit.calls.countP (fun call => call.kind = kind) =
      next.world.counters.answered kind + tally visit.open? kind
  /-- The source has had its calls. -/
  sourced : next.world.sourceCalls =
    group.world.sourceCalls + visit.calls.countP (fun call => call.kind = .load)
  /-- It is not lost as it comes unless it has made a call. -/
  kept : visit.before = none → visit.last? = none → ∀ ending, visit.ending? = some ending →
    ∃ result, ending = .returned result

end Group

/-! ## Counters at the end of a lookup -/

theorem Counter.ne_of_mem_ofEndings {counter : Counter} (ends : counter ∈ ofEndings) :
    counter ≠ .get ∧ counter ≠ .load ∧ counter ≠ .peerError ∧ counter ≠ .eviction := by
  revert ends
  cases counter <;> decide

/-- The end of a pass is counted as an answer to its last call. -/
theorem CallKind.counter?_mem {kind : CallKind} {ending : Ending Result} {counter : Counter}
    (counted : kind.counter? ending = some counter) :
    counter ∈ [Counter.peerLoad, .localLoad, .localError] := by
  unfold CallKind.counter? at counted
  split at counted <;> cases counted <;> decide

theorem Departure.counter?_of_last {departure : Departure} {kind : CallKind}
    (isLast : departure.last? = some kind) :
    departure.counter? = kind.counter? departure.ending := by
  rw [counter?, isLast]

/-! ## Lookups in hand -/

namespace Group

variable {group base next : Group} {happening : Happening (Option Picker) Unit}
  {notices : List (Notice Call Result)} {id : Nat} {key : String}
  {before : Option (Option CallKind)}

namespace InHand

/-- A lookup that enters makes no pass yet. -/
theorem of_entrant (entrant : Flight.Entrant loads group happening id key () base) :
    ∃ before, before.join = none ∧ group.InHand happening base id before := by
  cases entrant with
  | fresh key plan missed => exact ⟨none, rfl, .fresh key () rfl missed⟩
  | woken caller present told =>
      have stood : caller.phase.kind? = none := by rw [told]; rfl
      exact ⟨some caller.phase.kind?, stood, .taken caller present rfl⟩

/-- The others stand where they stood. -/
theorem standing (inHand : group.InHand happening base id before) (sound : group.Sound)
    (stood : Option CallKind) :
    base.standing stood + tally before stood = group.standing stood := by
  cases inHand with
  | fresh key plan isStart missed => rfl
  | taken caller present notLookup => exact standing_remove sound present stood

/-- The lookup has just come, or stood there. -/
theorem origin (inHand : group.InHand happening base id before) :
    (before = none ∧ id = group.nextCaller) ∨
      ∃ caller ∈ group.callers, caller.id = id ∧ before = some caller.phase.kind? := by
  cases inHand with
  | fresh key plan isStart missed => exact .inl ⟨rfl, rfl⟩
  | taken caller present notLookup => exact .inr ⟨caller, present, rfl, rfl⟩

/-- Only lookups that have just come are counted. -/
theorem isLookup_eq (inHand : group.InHand happening base id before) :
    happening.isLookup = before.isNone := by
  cases inHand with
  | fresh key plan isStart missed =>
      rw [isStart, Happening.isLookup, (GroupState.greet_of_missed missed).1]
      rfl
  | taken caller present notLookup => exact notLookup

theorem value_of_comes (inHand : group.InHand happening base id before) {counter : Counter}
    (comes : counter = .get ∨ counter = .load) :
    base.world.counters.value counter =
      group.world.counters.value counter + before.isNone.toNat := by
  cases inHand with
  | fresh key plan isStart missed =>
      rw [(GroupState.greet_of_missed missed).2]
      rcases comes with rfl | rfl <;> simp [tally]
  | taken caller present notLookup => rfl

theorem value_of_ends (inHand : group.InHand happening base id before) (counter : Counter)
    (notGet : counter ≠ .get) (notLoad : counter ≠ .load) :
    base.world.counters.value counter = group.world.counters.value counter := by
  cases inHand with
  | fresh key plan isStart missed =>
      rw [(GroupState.greet_of_missed missed).2]
      simp [tally, notGet.symm, notLoad.symm]
  | taken caller present notLookup => rfl

theorem answered_eq (inHand : group.InHand happening base id before) (kind : CallKind) :
    base.world.counters.answered kind = group.world.counters.answered kind := by
  cases kind with
  | fetch =>
      rw [Counters.answered, inHand.value_of_ends .peerLoad (by decide) (by decide),
        inHand.value_of_ends .peerError (by decide) (by decide)]
      rfl
  | load =>
      rw [Counters.answered, inHand.value_of_ends .localLoad (by decide) (by decide),
        inHand.value_of_ends .localError (by decide) (by decide)]
      rfl

theorem sourceCalls_eq (inHand : group.InHand happening base id before) :
    base.world.sourceCalls = group.world.sourceCalls := by
  cases inHand with
  | fresh key plan isStart missed => rw [(GroupState.greet_of_missed missed).2]; rfl
  | taken caller present notLookup => rfl

/-- A lookup in hand makes a pass up to the next stop. -/
theorem books_of_pass (inHand : group.InHand happening base id before)
    (sound : group.Sound) (key : String) {calls : List Call} {progress : Progress Stage Result}
    (accounts : base.world.Accounts before.join (next.world, calls, progress))
    (heads : ∀ stood, next.standing stood = base.standing stood +
      tally (Visit.after ⟨id, before, calls, progress.ending?⟩) stood)
    (seen : notices =
      calls.map (.called id) ++ (progress.ending?.map (.ended id key)).toList) :
    group.Books happening next notices ⟨id, before, calls, progress.ending?⟩ := by
  obtain ⟨kind, isLast⟩ := Option.ne_none_iff_exists'.mp accounts.called
  have misses : Visit.misses ⟨id, before, calls, progress.ending?⟩ = before.isNone := by
    simp [Visit.misses, Visit.last?, isLast]
  have isCounter : Visit.counter? ⟨id, before, calls, progress.ending?⟩ =
      progress.ending?.bind kind.counter? := by
    rw [Visit.counter?, Visit.departure?, Option.bind_map]
    refine congrArg (Option.bind _) (funext fun ending => ?_)
    exact Departure.counter?_of_last isLast
  have uncounted : ∀ counter ∉ [Counter.peerLoad, .localLoad, .localError],
      tally (progress.ending?.bind kind.counter?) counter = 0 := by
    refine fun counter notAnswer => if_neg fun counted => notAnswer ?_
    obtain ⟨ending, _, ends⟩ := Option.bind_eq_some_iff.mp counted
    exact CallKind.counter?_mem ends
  have counts : ∀ counter, counter ≠ .peerError → counter ≠ .eviction →
      next.world.counters.value counter =
        base.world.counters.value counter +
          tally (progress.ending?.bind kind.counter?) counter := by
    intro counter notError notEviction
    have counted := accounts.counts counter notError notEviction
    rwa [isLast] at counted
  refine
    { origin := inHand.origin, seen := ⟨key, seen⟩, heads := fun stood => ?_, gets := ?_,
      loads := ?_, isLookup := ?_, ends := fun counter ends => ?_, answers := fun asked => ?_,
      sourced := ?_, kept := fun _ isNone => absurd isNone accounts.called }
  · rw [heads, ← inHand.standing sound stood]
    exact Nat.add_right_comm _ _ _
  · have counted := counts .get nofun nofun
    rw [uncounted .get (by decide), inHand.value_of_comes (.inl rfl)] at counted
    rw [inHand.isLookup_eq]
    exact counted
  · have counted := counts .load nofun nofun
    rw [uncounted .load (by decide), inHand.value_of_comes (.inr rfl)] at counted
    rw [misses]
    exact counted
  · rw [inHand.isLookup_eq, misses, isCounter, uncounted .hit (by decide), Nat.add_zero]
  · obtain ⟨notGet, notLoad, notError, notEviction⟩ := Counter.ne_of_mem_ofEndings ends
    rw [isCounter, counts counter notError notEviction,
      inHand.value_of_ends counter notGet notLoad]
  · have answers := accounts.answers asked
    have sameOpen : Visit.open? ⟨id, before, calls, progress.ending?⟩ =
        CallKind.open? before.join calls progress := by cases progress <;> rfl
    rw [sameOpen, ← inHand.answered_eq]
    exact answers
  · rw [← inHand.sourceCalls_eq]
    exact accounts.sourced

/-- A lookup in hand stays without a pass, or is cancelled: nothing is counted. -/
theorem books_of_uncounted (inHand : group.InHand happening base id before)
    (sound : group.Sound) (key : String) (ending? : Option (Ending Result))
    (uncounted : ending? = none ∨ before ≠ none ∧ ending? = some .cancelled)
    (sameWorld : next.world = base.world)
    (heads : ∀ stood, next.standing stood =
      base.standing stood + tally (Visit.after ⟨id, before, [], ending?⟩) stood)
    (seen : notices = (ending?.map (.ended id key)).toList) :
    group.Books happening next notices ⟨id, before, [], ending?⟩ := by
  have nothing : Visit.counter? ⟨id, before, [], ending?⟩ = none := by
    rcases uncounted with rfl | ⟨_, rfl⟩
    · rfl
    · rcases before with _ | _ | _ | _ <;> rfl
  have isOpen : Visit.open? ⟨id, before, [], ending?⟩ = before.join := by
    rcases uncounted with rfl | ⟨_, rfl⟩ <;> rfl
  have misses : Visit.misses ⟨id, before, [], ending?⟩ = before.isNone := by
    rcases uncounted with rfl | ⟨isOld, rfl⟩
    · exact Bool.and_true _
    · simp [Visit.misses, isOld]
  refine
    { origin := inHand.origin, seen := ⟨key, seen⟩, heads := fun stood => ?_, gets := ?_,
      loads := ?_, isLookup := ?_, ends := fun counter ends => ?_, answers := fun kind => ?_,
      sourced := sameWorld ▸ inHand.sourceCalls_eq, kept := fun isNew => ?_ }
  · rw [heads, ← inHand.standing sound stood]
    exact Nat.add_right_comm _ _ _
  · rw [inHand.isLookup_eq, sameWorld]
    exact inHand.value_of_comes (.inl rfl)
  · rw [misses, sameWorld]
    exact inHand.value_of_comes (.inr rfl)
  · rw [inHand.isLookup_eq, misses, nothing]
    rfl
  · obtain ⟨notGet, notLoad, _⟩ := Counter.ne_of_mem_ofEndings ends
    rw [nothing, sameWorld, inHand.value_of_ends counter notGet notLoad]
    rfl
  · rw [isOpen, sameWorld, inHand.answered_eq]
    rfl
  · rcases uncounted with rfl | ⟨isOld, _⟩
    · nofun
    · exact absurd isNew isOld

/-- A lookup in hand ends with the result of another's pass. -/
theorem books_of_shared (inHand : group.InHand happening base id (some none))
    (sound : group.Sound) {result : Result} (sameCallers : next.callers = base.callers)
    (isWorld : next.world = base.world.count .sharedLoad)
    (seen : notices = [.ended id key (.returned result)]) :
    group.Books happening next notices ⟨id, some none, [], some (.returned result)⟩ := by
  have isCounter : Visit.counter? ⟨id, some none, [], some (.returned result)⟩ =
      some .sharedLoad := by cases result <;> rfl
  refine
    { origin := inHand.origin, seen := ⟨key, seen⟩, heads := fun stood => ?_, gets := ?_,
      loads := ?_, isLookup := ?_, ends := fun counter ends => ?_, answers := fun kind => ?_,
      sourced := isWorld ▸ inHand.sourceCalls_eq, kept := nofun }
  · rw [Group.standing, sameCallers]
    exact inHand.standing sound stood
  · rw [inHand.isLookup_eq, isWorld]
    exact inHand.value_of_comes (.inl rfl)
  · rw [isWorld]
    exact inHand.value_of_comes (.inr rfl)
  · rw [inHand.isLookup_eq, isCounter]
    rfl
  · obtain ⟨notGet, notLoad, _⟩ := Counter.ne_of_mem_ofEndings ends
    rw [isWorld, GroupState.counters_count, Counters.value_count, isCounter,
      inHand.value_of_ends counter notGet notLoad]
  · rw [isWorld, ← inHand.answered_eq]
    cases kind <;> rfl

end InHand

/-- A pass that waits stands at its last call. -/
theorem after_of_blocked {state : GroupState} {world : GroupState} {calls : List Call}
    {stage : Stage}
    (accounts : state.Accounts before.join (world, calls, .blocked stage)) :
    Visit.after ⟨id, before, calls, none⟩ = some (some stage.kind) :=
  congrArg some (accounts.waits stage rfl)

/-- A new lookup is answered at once. -/
theorem books_of_answered {result : Result} (isStart : happening = .event (.start key ()))
    (greeted : (group.world.greet key).2 = some result) (sameCallers : next.callers = group.callers)
    (isWorld : next.world = (group.world.greet key).1)
    (seen : notices = [.ended group.nextCaller key (.returned result)]) :
    group.Books happening next notices
      ⟨group.nextCaller, none, [], some (.returned result)⟩ := by
  have sameStanding : ∀ stood, next.standing stood = group.standing stood := by
    intro stood
    rw [standing, sameCallers]
    rfl
  have kept : ∀ ending, some (Ending.returned result) = some ending →
      ∃ returned, ending = .returned returned :=
    fun ending isEnding => ⟨result, (Option.some.inj isEnding).symm⟩
  rcases GroupState.greet_of_answered greeted with
    ⟨unnamed, rfl, same⟩ | ⟨named, value, cache, _, rfl, counted⟩
  · have notLookup : happening.isLookup = false := by
      rw [isStart, Happening.isLookup, unnamed]
      rfl
    rw [same] at isWorld
    refine
      { origin := .inl ⟨rfl, rfl⟩, seen := ⟨key, seen⟩, heads := sameStanding, gets := ?_,
        loads := ?_, isLookup := ?_, ends := fun counter _ => ?_, answers := fun kind => ?_,
        sourced := ?_, kept := fun _ _ => kept }
    · rw [notLookup, isWorld]
      rfl
    · rw [isWorld]
      rfl
    · rw [notLookup]
      rfl
    · rw [isWorld]
      rfl
    · rw [isWorld]
      rfl
    · rw [isWorld]
      rfl
  · have isLookup : happening.isLookup = true := by
      rw [isStart, Happening.isLookup, named]
      rfl
    rw [counted] at isWorld
    refine
      { origin := .inl ⟨rfl, rfl⟩, seen := ⟨key, seen⟩, heads := sameStanding, gets := ?_,
        loads := ?_, isLookup := ?_, ends := fun counter ends => ?_, answers := fun kind => ?_,
        sourced := ?_, kept := fun _ _ => kept }
    · rw [isLookup, isWorld]
      rfl
    · rw [isWorld]
      rfl
    · rw [isLookup]
      rfl
    · obtain ⟨notGet, _⟩ := Counter.ne_of_mem_ofEndings ends
      have uncounted : tally (some .get) counter = 0 := if_neg (by simpa using notGet.symm)
      rw [isWorld, GroupState.counters_count, Counters.value_count, GroupState.counters_count,
        Counters.value_count, uncounted]
      rfl
    · rw [isWorld]
      cases kind <;> rfl
    · rw [isWorld]
      rfl

/-- A happening changes nothing that is counted, or books a visit. -/
inductive Entry (group : Group) (happening : Happening (Option Picker) Unit) (next : Group)
    (notices : List (Notice Call Result)) : Prop where
  /-- Nothing is counted, and nothing is seen. -/
  | rests (notLookup : happening.isLookup = false)
      (sameCounters : next.world.counters = group.world.counters)
      (sameCalls : next.world.sourceCalls = group.world.sourceCalls)
      (sameCallers : next.callers = group.callers) (unseen : notices = [])
  /-- A lookup comes, goes on or ends. -/
  | visits (visit : Visit) (books : group.Books happening next notices visit)

/-- Every happening is one of these. -/
theorem entry_of_effect (sound : group.Sound)
    (effect : Flight.Effect loads GroupState.equip group happening next notices) :
    group.Entry happening next notices := by
  cases effect with
  | idle happening moot =>
      refine .rests ?_ rfl rfl rfl rfl
      cases happening with
      | event event => cases event <;> first | rfl | exact moot.elim
      | _ => rfl
  | acted change => exact .rests rfl rfl rfl rfl rfl
  | answered key plan result greeted =>
      exact .visits _ (books_of_answered rfl greeted rfl rfl rfl)
  | @joined happening id key plan base entrant ticket found =>
      obtain ⟨before, stood, inHand⟩ := InHand.of_entrant entrant
      have stays : Visit.after ⟨id, before, [], none⟩ = some none := congrArg some stood
      refine .visits _ (inHand.books_of_uncounted sound key none (.inl rfl) rfl
        (fun stands => ?_) rfl)
      rw [standing_add, stays]
      rfl
  | @opened happening id key plan base entrant free world calls stage started =>
      obtain ⟨before, stood, inHand⟩ := InHand.of_entrant entrant
      have accounts := GroupState.accounts_start base.world key
      rw [show base.world.start key = (world, calls, .blocked stage) from started, ← stood]
        at accounts
      refine .visits _ (inHand.books_of_pass sound key accounts (fun stands => ?_) ?_)
      · rw [Progress.ending?, after_of_blocked accounts]
        exact standing_add base ⟨id, key, plan, .leading base.nextTicket stage⟩ stands
      · exact (List.append_nil _).symm
  | @passed happening id key plan base entrant free world calls progress ending started ends =>
      obtain ⟨before, stood, inHand⟩ := InHand.of_entrant entrant
      have accounts := GroupState.accounts_start base.world key
      rw [show base.world.start key = (world, calls, progress) from started, ← stood]
        at accounts
      refine .visits _ (inHand.books_of_pass sound key accounts (fun stands => ?_) ?_)
      · rw [ends]
        rfl
      · rw [ends]
        rfl
  | advanced leader present ticket stage leads outcome world calls later resumed =>
      have inHand : group.InHand (.event (.finish leader.key outcome)) _ _ _ :=
        .taken leader present rfl
      have accounts := GroupState.accounts_resume group.world leader.key stage outcome
      have stood : (some leader.phase.kind?).join = some stage.kind := by rw [leads]; rfl
      rw [show group.world.resume leader.key stage outcome = (world, calls, .blocked later)
        from resumed, ← stood] at accounts
      refine .visits _ (inHand.books_of_pass sound leader.key accounts (fun stands => ?_) ?_)
      · rw [Progress.ending?, after_of_blocked accounts]
        exact standing_add _ _ stands
      · exact (List.append_nil _).symm
  | concluded leader present ticket stage leads outcome world calls progress ending resumed ends =>
      have inHand : group.InHand (.event (.finish leader.key outcome)) _ _ _ :=
        .taken leader present rfl
      have accounts := GroupState.accounts_resume group.world leader.key stage outcome
      have stood : (some leader.phase.kind?).join = some stage.kind := by rw [leads]; rfl
      rw [show group.world.resume leader.key stage outcome = (world, calls, progress)
        from resumed, ← stood] at accounts
      refine .visits _ (inHand.books_of_pass sound leader.key accounts (fun stands => ?_) ?_)
      · rw [ends]
        exact standing_release _ _ _ _ stands
      · rw [ends]
        rfl
  | abandoned leader present ticket stage leads =>
      have inHand : group.InHand (.event (.cancelLeader leader.key)) _ _ _ :=
        .taken leader present rfl
      exact .visits _ (inHand.books_of_uncounted sound leader.key (some .cancelled)
        (.inr ⟨Option.some_ne_none _, rfl⟩) rfl (fun stands => standing_release _ _ _ _ stands) rfl)
  | shared caller present result told =>
      have stood : caller.phase.kind? = none := by rw [told]; rfl
      have inHand : group.InHand (.wake caller.id) _ _ _ := .taken caller present rfl
      rw [stood] at inHand
      exact .visits _ (inHand.books_of_shared sound rfl rfl rfl)
  | withdrawn happening caller present follows cancelled =>
      have notLookup : happening.isLookup = false := by
        rcases cancelled with ⟨rfl, _⟩ | rfl <;> rfl
      have inHand : group.InHand happening _ _ _ := .taken caller present notLookup
      exact .visits _ (inHand.books_of_uncounted sound caller.key (some .cancelled)
        (.inr ⟨Option.some_ne_none _, rfl⟩) rfl (fun stands => rfl) rfl)

end Group

end RingCache
