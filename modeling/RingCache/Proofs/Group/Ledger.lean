import RingCache.Proofs.Group.Answers
import RingCache.Proofs.Group.Routing
import RingCache.Proofs.Group.Visits

/-!
# The counters of a group

What a group counts agrees at all times with what has happened to its lookups:
who has come, what they have called, and how they have ended. `Balanced` lists the
equations; every happening keeps them, since it books one visit at most
(`Balanced.next`).
-/

namespace RingCache

/-- The kind of the call that a notice shows. -/
def Notice.kind? : Notice Call Result → Option CallKind
  | .called _ call => some call.kind
  | .ended _ _ _ => none

/-- Every caller waits, leads, or has been told. -/
theorem Flight.length_callers_eq {ω κ σ ρ : Type} (flight : Flight ω κ σ ρ) :
    flight.callers.length =
      flight.callers.countP (·.phase.isWaiting) + flight.callers.countP (·.phase.isLeading) +
        flight.told.length := by
  rw [told, ← List.countP_eq_length_filter]
  induction flight.callers with
  | nil => rfl
  | cons caller rest inductionHypothesis =>
      rw [List.length_cons, List.countP_cons, List.countP_cons, List.countP_cons,
        inductionHypothesis]
      cases caller.phase <;> simp [Phase.isWaiting, Phase.isLeading, Phase.isTold] <;> omega

/-! ## Sums over visits -/

/-- Who stands somewhere stands at a call of one of the kinds, or at none. -/
theorem tally_kinds (stands : Option (Option CallKind)) :
    tally stands none + tally stands (some .fetch) + tally stands (some .load) =
      stands.isSome.toNat := by
  rcases stands with _ | _ | _ | _ <;> rfl

theorem tally_join (stands : Option (Option CallKind)) (kind : CallKind) :
    tally stands.join kind = tally stands (some kind) := by
  rcases stands with _ | _ | _ <;> simp [tally]

/-- If one lookup moves, the number of lookups changes as that one does. -/
theorem Group.length_of_heads {group next : Group} {visit : Visit}
    (heads : ∀ stood, next.standing stood + tally visit.before stood =
      group.standing stood + tally visit.after stood) :
    next.callers.length + visit.before.isSome.toNat =
      group.callers.length + visit.after.isSome.toNat := by
  have none := heads none
  have fetch := heads (some .fetch)
  have load := heads (some .load)
  rw [group.length_callers, next.length_callers, ← tally_kinds, ← tally_kinds]
  omega

namespace Visit

/-- A lookup that misses or was there before stays, is counted for its result, or
is lost. -/
theorem balance (visit : Visit)
    (kept : visit.before = none → visit.last? = none → ∀ ending, visit.ending? = some ending →
      ∃ result, ending = .returned result) :
    visit.misses.toNat + visit.before.isSome.toNat =
      visit.after.isSome.toNat + tally visit.counter? .sharedLoad +
        tally visit.counter? .peerLoad + tally visit.counter? .localLoad +
        tally visit.counter? .localError + visit.departure?.toList.countP Departure.isLost := by
  rw [misses, after, counter?, departure?]
  generalize visit.last? = last at kept ⊢
  obtain ⟨id, before, calls, ending⟩ := visit
  cases ending with
  | none => cases before <;> rfl
  | some ending =>
      rcases ending with (_ | _) | _ | _ <;> rcases last with _ | _ | _ <;> cases before <;>
        first
          | rfl
          | rcases kept rfl rfl _ rfl with ⟨_, ⟨⟩⟩

/-- The call of a lookup that is open is waited for, or was lost. -/
theorem tally_open? (visit : Visit) (kind : CallKind) :
    tally visit.open? kind = tally visit.after (some kind) +
      visit.departure?.toList.countP fun departure =>
        departure.isLost && departure.last? = some kind := by
  rw [open?, after, departure?]
  generalize visit.last? = last
  rcases visit.ending? with _ | _ | _ | _ <;>
    simp [tally, Departure.isLost, List.countP_singleton]

theorem tally_counter? (visit : Visit) (counter : Counter) :
    tally visit.counter? counter =
      visit.departure?.toList.countP fun departure => departure.counter? = some counter := by
  rw [counter?]
  cases visit.departure? <;> simp [tally, List.countP_singleton]

end Visit

namespace GroupRun

/-- How many lookups with a key have come before a time. -/
def lookups (run : GroupRun) (index : Nat) : Nat :=
  (List.range index).countP fun time => (run.happening time).isLookup

/-- How many calls of a kind have been made before a time. -/
def issued (run : GroupRun) (kind : CallKind) (index : Nat) : Nat :=
  ((List.range index).flatMap run.notices).countP fun notice => notice.kind? = some kind

/-- The kind of the last call that a lookup has made before a time. -/
def lastKind? (run : GroupRun) (id index : Nat) : Option CallKind :=
  (run.calls id index).getLast?.map Call.kind

/-- The lookup whose end a notice shows. -/
def departure? (run : GroupRun) (index : Nat) : Notice Call Result → Option Departure
  | .called _ _ => none
  | .ended id _ ending =>
      some ⟨id, decide ((run.state index).nextCaller ≤ id), run.lastKind? id (index + 1), ending⟩

/-- The lookups that have ended before a time. -/
def departures (run : GroupRun) (index : Nat) : List Departure :=
  (List.range index).flatMap fun time => (run.notices time).filterMap (run.departure? time)

variable {run : GroupRun} {index id : Nat} {visit : Visit}

/-! ## One happening -/

theorem lookups_succ (run : GroupRun) (index : Nat) :
    run.lookups (index + 1) = run.lookups index + (run.happening index).isLookup.toNat := by
  rw [lookups, List.range_succ, List.countP_append, List.countP_singleton]
  cases (run.happening index).isLookup <;> rfl

theorem issued_succ (run : GroupRun) (kind : CallKind) (index : Nat) :
    run.issued kind (index + 1) = run.issued kind index +
      (run.notices index).countP fun notice => notice.kind? = some kind := by
  rw [issued, List.range_succ, List.flatMap_append, List.countP_append, List.flatMap_singleton]
  rfl

theorem departures_succ (run : GroupRun) (index : Nat) :
    run.departures (index + 1) =
      run.departures index ++ (run.notices index).filterMap (run.departure? index) := by
  rw [departures, List.range_succ, List.flatMap_append, List.flatMap_singleton]
  rfl

/-- A lookup that is there waits for its last call, or has made none. -/
theorem lastKind?_of_present {caller : Caller Unit Stage Result}
    (present : caller ∈ (run.state index).callers) :
    run.lastKind? caller.id index = caller.phase.kind? := by
  rw [lastKind?, getLast?_calls present, Caller.call?]
  rcases caller.phase with ⟨_, _ | _⟩ | _ | _ <;> rfl

/-- A lookup that has not come has made no calls. -/
theorem lastKind?_of_new (isNew : (run.state index).nextCaller ≤ id) :
    run.lastKind? id index = none := by
  have nothing : run.calls id index = [] := Run.calls_eq_nil fun earlier before call called =>
    Run.silent_before isNew before _ called rfl
  rw [lastKind?, nothing]
  rfl

/-- What a visit adds to what has been seen. -/
theorem seen_of_books (books : Group.Books (run.state index) (run.happening index)
      (run.state (index + 1)) (run.notices index) visit) :
    run.lastKind? visit.id (index + 1) = visit.last? ∧
      run.departures (index + 1) = run.departures index ++ visit.departure?.toList ∧
      ∀ kind, run.issued kind (index + 1) =
        run.issued kind index + visit.calls.countP fun call => call.kind = kind := by
  obtain ⟨key, seen⟩ := books.seen
  have stood : run.lastKind? visit.id index = visit.before.join := by
    rcases books.origin with ⟨isNew, isNext⟩ | ⟨caller, present, sameId, isKind⟩
    · rw [isNew, lastKind?_of_new (Nat.le_of_eq isNext.symm)]
      rfl
    · rw [isKind, ← sameId, lastKind?_of_present present]
      rfl
  have isNew : decide ((run.state index).nextCaller ≤ visit.id) = visit.before.isNone := by
    rcases books.origin with ⟨isNew, isNext⟩ | ⟨caller, present, sameId, isKind⟩
    · rw [isNew, isNext]
      exact decide_eq_true (Nat.le_refl _)
    · have numbered := (run.sound index).callersNumbered caller present
      rw [isKind, ← sameId]
      exact decide_eq_false (Nat.not_le_of_lt numbered)
  have called : run.calls visit.id (index + 1) = run.calls visit.id index ++ visit.calls := by
    cases ends : visit.ending? with
    | none =>
        rw [ends] at seen
        exact Run.calls_of_called (seen.trans (List.append_nil _))
    | some ending =>
        rw [ends] at seen
        exact Run.calls_of_called_ended seen
  have last : run.lastKind? visit.id (index + 1) = visit.last? := by
    rw [lastKind?, called, List.getLast?_append, Option.map_or, ← lastKind?, stood]
    rfl
  refine ⟨last, ?_, fun kind => ?_⟩
  · have noneCalled : (visit.calls.map (Notice.called visit.id)).filterMap (run.departure? index) =
        [] := by
      refine List.filterMap_eq_nil_iff.mpr fun notice mem => ?_
      obtain ⟨call, _, rfl⟩ := List.mem_map.mp mem
      rfl
    rw [departures_succ, seen, List.filterMap_append, noneCalled, List.nil_append,
      Visit.departure?]
    cases visit.ending? with
    | none => rfl
    | some ending =>
        rw [← isNew, ← last]
        rfl
  · have ended : (visit.ending?.map (Notice.ended visit.id key)).toList.countP
        (fun notice : Notice Call Result => notice.kind? = some kind) = 0 := by
      cases visit.ending? <;> rfl
    rw [issued_succ, seen, List.countP_append, ended, List.countP_map]
    simp [Function.comp_def, Notice.kind?]

/-! ## The equations -/

/-- What has been counted before a time agrees with what has happened. -/
structure Balanced (run : GroupRun) (index : Nat) : Prop where
  /-- Lookups with a key are counted. -/
  gets : (run.state index).world.counters.gets = run.lookups index
  /-- Each of them is a hit or needs a load. -/
  misses : (run.state index).world.counters.gets =
    (run.state index).world.counters.hits + (run.state index).world.counters.loads
  /-- Each one that needs a load got it, waits for it, or was lost. -/
  loads : (run.state index).world.counters.loads =
    (run.state index).world.counters.sharedLoads + (run.state index).world.counters.peerLoads +
      (run.state index).world.counters.localLoads + (run.state index).world.counters.localErrors +
      (run.state index).callers.length + (run.departures index).countP Departure.isLost
  /-- Each call is answered, waited for, or was lost. -/
  calls : ∀ kind, run.issued kind index =
    (run.state index).world.counters.answered kind + Group.standing (run.state index) (some kind) +
      (run.departures index).countP fun departure =>
        departure.isLost && departure.last? = some kind
  /-- The source has had the calls that were made. -/
  sourced : (run.state index).world.sourceCalls = run.issued .load index
  /-- Each lookup that has ended is counted by its own end. -/
  ends : ∀ counter ∈ Counter.ofEndings, (run.state index).world.counters.value counter =
    (run.departures index).countP fun departure => departure.counter? = some counter

/-- A happening that is nobody's adds nothing. -/
theorem seen_of_unseen (unseen : run.notices index = []) :
    run.departures (index + 1) = run.departures index ∧
      ∀ kind, run.issued kind (index + 1) = run.issued kind index := by
  refine ⟨?_, fun kind => ?_⟩
  · rw [departures_succ, unseen]
    exact List.append_nil _
  · rw [issued_succ, unseen]
    rfl

/-- Every happening keeps the equations. -/
theorem Balanced.next (balanced : run.Balanced index) : run.Balanced (index + 1) := by
  cases Group.entry_of_effect (run.sound index) (run.effect index) with
  | rests notLookup sameCounters sameCalls sameCallers unseen =>
      obtain ⟨sameDepartures, sameIssued⟩ := seen_of_unseen unseen
      refine ⟨?_, ?_, ?_, fun kind => ?_, ?_, fun counter isEnd => ?_⟩
      · rw [sameCounters, lookups_succ, notLookup]
        exact balanced.gets
      · rw [sameCounters]
        exact balanced.misses
      · rw [sameCounters, sameCallers, sameDepartures]
        exact balanced.loads
      · rw [sameIssued, sameCounters, sameDepartures, Group.standing, sameCallers]
        exact balanced.calls kind
      · rw [sameCalls, sameIssued]
        exact balanced.sourced
      · rw [sameCounters, sameDepartures]
        exact balanced.ends counter isEnd
  | visits visit books =>
      -- Each equation changes on both sides by what the visit adds to it.
      obtain ⟨_, departed, issued⟩ := seen_of_books books
      refine ⟨?_, ?_, ?_, fun kind => ?_, ?_, fun counter isEnd => ?_⟩
      · rw [books.gets, lookups_succ, balanced.gets]
      · have hits : (run.state (index + 1)).world.counters.hits =
            (run.state index).world.counters.hits + tally visit.counter? .hit :=
          books.ends .hit (by decide)
        have isLookup := books.isLookup
        have misses := balanced.misses
        rw [books.gets, books.loads, hits]
        omega
      · have shared := books.ends .sharedLoad (by decide)
        have peer := books.ends .peerLoad (by decide)
        have loaded := books.ends .localLoad (by decide)
        have failed := books.ends .localError (by decide)
        have moves := Group.length_of_heads books.heads
        have balance := visit.balance books.kept
        have loads := balanced.loads
        rw [books.loads, departed, List.countP_append]
        simp only [Counters.value] at shared peer loaded failed
        omega
      · have answers := books.answers kind
        have heads := books.heads (some kind)
        have calls := balanced.calls kind
        have isOpen := visit.tally_open? kind
        have stood := tally_join visit.before kind
        rw [issued, departed, List.countP_append]
        omega
      · rw [books.sourced, issued, balanced.sourced]
      · rw [books.ends counter isEnd, balanced.ends counter isEnd, departed, List.countP_append,
          visit.tally_counter?]

/-- The equations hold at all times of a run that starts with nothing counted. -/
theorem balanced (run : GroupRun) (uncounted : run.world.counters = {})
    (uncalled : run.world.sourceCalls = 0) (index : Nat) : run.Balanced index := by
  induction index with
  | zero =>
      have nothing : (run.state 0).world.counters = {} := uncounted
      refine ⟨?_, ?_, ?_, fun kind => ?_, uncalled, fun counter _ => ?_⟩
      · rw [nothing]
        rfl
      · rw [nothing]
        rfl
      · rw [nothing]
        rfl
      · rw [nothing]
        cases kind <;> rfl
      · rw [nothing]
        cases counter <;> rfl
  | succ index inductionHypothesis => exact inductionHypothesis.next

/-! ## Lookups that make a pass -/

/-- A lookup that starts a pass has not been seen before. -/
theorem silent_before_opens {start ticket : Nat} {key : String}
    (opens : run.Opens start id key ticket) :
    ∀ earlier < start, ∀ notice ∈ run.notices earlier, notice.caller ≠ id := by
  obtain ⟨⟨⟨plan, base, entrant⟩, _⟩, _⟩ := opens
  intro earlier before
  rcases entrant.numbered with ⟨isNew, _⟩ | ⟨_, caller, present, rfl, _, _, told⟩
  · exact Run.silent_before (Nat.le_of_eq isNew.symm) before
  · exact Run.silent_of_follows present (by rw [told]; rfl) earlier before

/-- A lookup that has started a pass has made a call. -/
theorem lastKind?_of_opens {start ticket : Nat} {key : String}
    (opens : run.Opens start id key ticket) (after : start < index) :
    ∃ kind, run.lastKind? id index = some kind := by
  rw [lastKind?]
  cases owner : (run.state start).world.owner? key with
  | none =>
      rw [calls_of_nobody opens owner after]
      exact ⟨.load, rfl⟩
  | some peer =>
      rcases calls_of_named opens owner after with ⟨_, called⟩ | ⟨_, called⟩
      · rw [called]
        exact ⟨.fetch, rfl⟩
      · rw [called]
        exact ⟨.load, rfl⟩

/-- A lookup that ends with a pass of its own is counted for the end of that pass,
whether or not it waited for another before. -/
theorem counted_of_opens {start ticket : Nat} {key endKey : String} {ending : Ending Result}
    (opens : run.Opens start id key ticket) (ended : .ended id endKey ending ∈ run.notices index) :
    ∃ kind, run.lastKind? id (index + 1) = some kind ∧
      ∀ counter ∈ Counter.ofEndings, (run.state (index + 1)).world.counters.value counter =
        (run.state index).world.counters.value counter + tally (kind.counter? ending) counter := by
  have since : start ≤ index := Nat.le_of_not_lt fun before =>
    silent_before_opens opens index before _ ended rfl
  obtain ⟨kind, isLast⟩ := lastKind?_of_opens opens (Nat.lt_succ_of_le since)
  refine ⟨kind, isLast, fun counter isEnd => ?_⟩
  cases Group.entry_of_effect (run.sound index) (run.effect index) with
  | rests notLookup sameCounters sameCalls sameCallers unseen =>
      rw [unseen] at ended
      cases ended
  | visits visit books =>
      obtain ⟨own, seen⟩ := books.seen
      have isVisit : visit.id = id ∧ visit.ending? = some ending := by
        rw [seen] at ended
        rcases List.mem_append.mp ended with called | ends
        · obtain ⟨call, isCall⟩ := Flight.of_mem_calls called
          cases isCall
        · cases ending : visit.ending? with
          | none =>
              rw [ending] at ends
              cases ends
          | some other =>
              rw [ending] at ends
              cases List.mem_singleton.mp ends
              exact ⟨rfl, rfl⟩
      obtain ⟨rfl, isEnding⟩ := isVisit
      have ownLast : visit.last? = some kind := (seen_of_books books).1.symm.trans isLast
      have ownCounter : visit.counter? = kind.counter? ending := by
        rw [Visit.counter?, Visit.departure?, isEnding]
        exact Departure.counter?_of_last ownLast
      rw [← ownCounter]
      exact books.ends counter isEnd

/-- At all times of a run of a group, the lookups with a key are counted, each is a
hit or needs a load, and each that needs a load has shared another's, was answered
by a peer or by the source, was refused by the source, waits, makes a pass, has been
told and not yet gone on, or was cancelled or crashed. The calls to peers and to the
source are those that were answered, those that are waited for, and those that were
lost with their lookups. Every lookup that has ended is counted by its own end; one
that made a pass, also if it waited for another's before, is counted by the end of
its last call, and not as shared. -/
theorem counters_agree_with_lookups (name : String) (budget : Nat) (source : Source)
    (happening : Nat → Happening (Option Picker) Unit) :
    let run : GroupRun := .create name budget source happening
    ∀ index,
      let group : Group := run.state index
      let counters := group.world.counters
      let departures := run.departures index
      counters.gets = run.lookups index ∧
        counters.gets = counters.hits + counters.loads ∧
        counters.loads =
          counters.sharedLoads + counters.peerLoads + counters.localLoads + counters.localErrors +
            (group.callers.countP (·.phase.isWaiting) + group.callers.countP (·.phase.isLeading) +
              group.told.length) +
            departures.countP Departure.isLost ∧
        run.issued .fetch index =
          counters.peerLoads + counters.peerErrors + group.standing (some .fetch) +
            departures.countP (fun departure =>
              departure.isLost && departure.last? = some .fetch) ∧
        run.issued .load index =
          counters.localLoads + counters.localErrors + group.standing (some .load) +
            departures.countP (fun departure =>
              departure.isLost && departure.last? = some .load) ∧
        group.world.sourceCalls = run.issued .load index ∧
        (∀ counter ∈ Counter.ofEndings, counters.value counter =
          departures.countP fun departure => departure.counter? = some counter) ∧
        ∀ start id key ticket, run.Opens start id key ticket →
          ∀ endKey ending, .ended id endKey ending ∈ run.notices index →
            (run.state (index + 1)).world.counters.sharedLoads = counters.sharedLoads ∧
              ∃ kind, run.lastKind? id (index + 1) = some kind ∧
                ∀ counter ∈ Counter.ofEndings,
                  (run.state (index + 1)).world.counters.value counter =
                    counters.value counter + tally (kind.counter? ending) counter := by
  intro run index
  have balanced := run.balanced rfl rfl index
  refine ⟨balanced.gets, balanced.misses, ?_, balanced.calls .fetch, balanced.calls .load,
    balanced.sourced, balanced.ends, fun start id key ticket opens endKey ending ended => ?_⟩
  · have loads := balanced.loads
    rwa [Flight.length_callers_eq] at loads
  · obtain ⟨kind, isLast, counted⟩ := counted_of_opens opens ended
    refine ⟨?_, kind, isLast, counted⟩
    have notShared : tally (kind.counter? ending) .sharedLoad = 0 :=
      if_neg fun isShared => absurd (CallKind.counter?_mem isShared) (by decide)
    have shared := counted .sharedLoad (by decide)
    rwa [notShared] at shared

/-- A lookup waits for a pass that is cancelled, and takes over: it is counted for the
answer of the source to its own call. -/
example :
    let run : GroupRun := .create "scores" 64 .held fun
      | 0 => .event (.start "Tom" ())
      | 1 => .event (.start "Tom" ())
      | 2 => .event (.cancelLeader "Tom")
      | 3 => .wake 1
      | 4 => .event (.finish "Tom" (.value []))
      | _ => .nothing
    (run.departures 5).map Departure.counter? = [none, some .localLoad] ∧
      run.issued .load 5 = 2 ∧ (run.state 5).world.counters.sharedLoads = 0 :=
  ⟨rfl, rfl, rfl⟩

end GroupRun

end RingCache
