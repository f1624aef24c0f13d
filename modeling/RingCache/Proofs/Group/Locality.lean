import RingCache.Proofs.Cluster.Sights
import RingCache.Proofs.Flight.Gatherings
import RingCache.Proofs.Group.Contents
import RingCache.Proofs.Group.Functions

/-!
# Lookups at one node

In a group that computes a function and in which nobody waits, lookups of one key that
come together either end at once, one after the other (`Group.run_local`), or all wait
for one fetch (`Group.run_sends`) and end with it (`Group.finish_gathers`). Either way
there are as many results as lookups.

Whether a key is kept is promised too: as long as fetches of a key give values, a group
that has a peer for it does not keep it and does not call the source for it
(`GroupState.absent`); and a group without a limit that keeps it goes on to do so, and
does not call the source for it again (`GroupState.resident`).
-/

namespace RingCache

open Recency

/-! ## Which keys are kept -/

namespace LocalCache

variable {cache next : LocalCache} {key other : String} {value : Octets}

/-- Reading changes nothing of which keys are kept. -/
theorem Formed.contains_get? (formed : cache.Formed) (read : cache.get? key = some (value, next))
    (other : String) : next.contains other ↔ cache.contains other := by
  obtain ⟨front, back, before, after⟩ := formed.get?_moves read
  rw [(formed.get? read).contains_iff, formed.contains_iff, before, after]
  simp only [List.mem_cons, List.mem_append, or_left_comm]

/-- Writing makes no other key a kept one. -/
theorem Formed.not_contains_put (formed : cache.Formed) (named : key ≠ "")
    (absent : ¬ cache.contains other) (differs : other ≠ key) (value : Octets) :
    ¬ (cache.put key value).1.contains other := by
  rw [(formed.put named value).contains_iff]
  rintro ⟨found, listed⟩
  rcases formed.entries_put key value listed with isWritten | ⟨before, _⟩
  · exact differs (Prod.mk.inj isWritten).1
  · exact absent (formed.contains_iff.mpr ⟨found, before⟩)

/-- Writing without a limit drops no key. -/
theorem Limited.contains_put (limited : Limited 0 cache) (named : key ≠ "")
    (kept : other = key ∨ cache.contains other) (value : Octets) :
    (cache.put key value).1.contains other := by
  have written : (cache.put key value).1.entries = (key, value) :: Pairs.without cache.entries key :=
    limited.entries_put key value
  rw [(limited.formed.put named value).contains_iff, written]
  by_cases same : other = key
  · exact ⟨value, by rw [same]; exact List.mem_cons_self⟩
  · obtain ⟨found, listed⟩ := limited.formed.contains_iff.mp (kept.resolve_left same)
    refine ⟨found, List.mem_cons_of_mem _ (List.mem_filter.mpr ⟨listed, ?_⟩)⟩
    exact bne_iff_ne.mpr same

end LocalCache

namespace GroupState

variable {state next : GroupState} {name key other : String}
  {function : String → Except String Octets} {peer : Peer}

/-- A lookup that comes changes nothing of which keys are kept. -/
theorem contains_greet (formed : state.cache.Formed) (key other : String) :
    (state.greet key).1.cache.contains other ↔ state.cache.contains other := by
  cases answered : (state.greet key).2 with
  | none =>
      rw [(greet_of_missed answered).2]
      exact Iff.rfl
  | some result =>
      rcases greet_of_answered answered with ⟨_, _, same⟩ | ⟨_, value, cache, read, _, counted⟩
      · rw [same]
      · rw [counted]
        exact formed.contains_get? read other

/-- A lookup of a key that is not kept is not answered at once. -/
theorem greet_of_absent (formed : state.cache.Formed) (named : key ≠ "")
    (absent : ¬ state.cache.contains key) : (state.greet key).2 = none := by
  cases answered : (state.greet key).2 with
  | none => rfl
  | some result =>
      rcases greet_of_answered answered with ⟨unnamed, _, _⟩ | ⟨_, value, cache, read, _, _⟩
      · exact absurd (by simpa using unnamed) named
      · exact absurd (formed.contains_of_get? read) absent

/-- Passes of other keys do not make a key a kept one. -/
theorem absent_pass (named : key ≠ "") (differs : other ≠ key) :
    PassInvariant (fun state => state.cache.Formed ∧ ¬ state.cache.contains other) key where
  counts _ _ now := now
  keeps _ value now :=
    ⟨now.1.put named value, now.1.not_contains_put named now.2 differs value⟩
  calls _ now := now

/-- Passes do not drop a key if there is no limit. -/
theorem resident_pass (named : key ≠ "") :
    PassInvariant (fun state => state.cache.Limited 0 ∧ state.cache.contains other) key where
  counts _ _ now := now
  keeps _ value now := ⟨now.1.put named value, now.1.contains_put named (.inr now.2) value⟩
  calls _ now := now

/-! ## How lookups are answered -/

/-- Whether a lookup of a key ends without waiting for a peer: there is no key, or it is
kept, or nobody else is asked, or a request cannot be sent. -/
def IsLocal (key : String) (state : GroupState) : Prop :=
  key = "" ∨ state.cache.contains key ∨
    ∀ peer, state.owner? key = some peer → peer.fetch state.name key ≠ .held

theorem isLocal_of_unowned (unowned : state.owner? key = none) : state.IsLocal key := by
  refine .inr (.inr fun peer owns => ?_)
  rw [unowned] at owns
  cases owns

/-- Whether a lookup of a key waits for a peer. -/
structure Sends (key : String) (peer : Peer) (state : GroupState) : Prop where
  named : key ≠ ""
  absent : ¬ state.cache.contains key
  owned : state.owner? key = some peer
  held : peer.fetch state.name key = .held

theorem isLocal_or_sends (state : GroupState) (key : String) :
    state.IsLocal key ∨ ∃ peer, state.Sends key peer := by
  by_contra neither
  rw [not_or, IsLocal, not_or, not_or] at neither
  obtain ⟨⟨named, absent, asks⟩, nobody⟩ := neither
  refine asks fun peer owned held => nobody ⟨peer, named, absent, owned, held⟩

/-- This depends on what makes the group, and on whether the key is kept. -/
theorem Sends.of_nature (sends : state.Sends key peer) (same : next.nature = state.nature)
    (absent : ¬ next.cache.contains key) : next.Sends key peer where
  named := sends.named
  absent := absent
  owned := by rw [owner?_of_nature same, sends.owned]
  held := by rw [name_of_nature same, sends.held]

theorem Sends.greet (sends : state.Sends key peer) (formed : state.cache.Formed) (other : String) :
    (state.greet other).1.Sends key peer :=
  sends.of_nature (nature_greet state other) (mt (contains_greet formed other key).mp sends.absent)

/-- A pass that waits for a peer has asked it, and has changed nothing. -/
theorem Sends.start (sends : state.Sends key peer) :
    ∃ asked : GroupState, asked.Sends key peer ∧
      state.start key = (asked, [.fetch peer state.name key], .blocked (.fetching peer)) := by
  have picked := (pick_eq state key).1.trans sends.owned
  refine ⟨(state.pick key).1, ?_, ?_⟩
  · rw [pick_frame]
    exact ⟨sends.named, sends.absent, sends.owned, sends.held⟩
  · rw [GroupState.start, picked]
    dsimp only
    rw [sends.held]

/-- A fetch that has not crashed ends the pass with what a lookup is to return. -/
theorem Computes.fetched_returns (computes : state.Computes name function) (named : key ≠ "")
    {outcome : Outcome} (isTrue : IsTrue function key outcome) {result : Result}
    (ended : outcome.result? = some result) :
    (state.fetched key outcome).2.2 = .returned (Source.answer function key) := by
  rcases (computes.fetched named isTrue).2 with returned | crashed
  · exact returned
  · rw [GroupState.fetched, ended] at crashed
    cases result with
    | ok value => cases crashed
    | error failure =>
        rw [((computes.count .peerError).load named).2] at crashed
        cases crashed

/-- Whether a lookup of a key ends at once, in which the group changes. -/
inductive Ends (key : String) (state next : GroupState) : List Call → Prop where
  /-- The key is kept, or there is none. -/
  | answered (result : Result) (greeted : state.greet key = (next, some result)) :
      Ends key state next []
  /-- Its load ends at once. -/
  | passed (greeted : GroupState) (calls : List Call) (result : Result)
      (missed : state.greet key = (greeted, none))
      (started : greeted.start key = (next, calls, .returned result)) : Ends key state next calls

/-- A pass that waits for no peer returns. -/
theorem Computes.start_local (computes : state.Computes name function) (named : key ≠ "")
    (alone : ∀ peer, state.owner? key = some peer → peer.fetch state.name key ≠ .held) :
    (state.start key).2.2 = .returned (Source.answer function key) := by
  have picks := computes.pick key
  have picked := (pick_eq state key).1
  rw [GroupState.start, picked]
  cases owner : state.owner? key with
  | none => exact (picks.load named).2
  | some peer =>
      dsimp only
      cases replied : peer.fetch state.name key with
      | held => exact absurd replied (alone peer owner)
      | now outcome =>
          have fails := (computes.asks key peer owner).fails replied
          obtain ⟨failure, ended⟩ := id fails
          exact picks.fetched_returns named (.of_fails fails) ended

/-- A lookup that waits for no peer ends at once, and so do those that follow. -/
theorem Computes.ends_of_local (computes : state.Computes name function)
    (isLocal : state.IsLocal key) : ∃ next calls, Ends key state next calls ∧ next.IsLocal key := by
  have greeted : state.greet key = ((state.greet key).1, (state.greet key).2) := rfl
  cases answered : (state.greet key).2 with
  | some result =>
      rw [answered] at greeted
      refine ⟨_, [], .answered result greeted, ?_⟩
      rcases isLocal with unnamed | kept | alone
      · exact .inl unnamed
      · exact .inr (.inl ((contains_greet computes.formed key key).mpr kept))
      · have same := nature_greet state key
        rw [← owner?_of_nature same, ← name_of_nature same] at alone
        exact .inr (.inr alone)
  | none =>
      have missed := greet_of_missed answered
      rw [answered] at greeted
      have named : key ≠ "" := by simpa using missed.1
      have alone : ∀ peer, state.owner? key = some peer →
          peer.fetch state.name key ≠ .held := by
        rcases isLocal with unnamed | kept | alone
        · exact absurd unnamed named
        · obtain ⟨value, _, hit⟩ := greet_reads computes.formed kept
          rw [answered] at hit
          cases hit
        · exact alone
      have same := nature_greet state key
      have sameStart := nature_start (state.greet key).1 key
      rw [← owner?_of_nature same, ← name_of_nature same] at alone
      have returned := (computes.greet key).1.start_local named alone
      have started : (state.greet key).1.start key = (((state.greet key).1.start key).1,
          ((state.greet key).1.start key).2.1, .returned (Source.answer function key)) := by
        rw [← returned]
      rw [← owner?_of_nature sameStart, ← name_of_nature sameStart] at alone
      exact ⟨_, _, .passed _ _ _ greeted started, .inr (.inr alone)⟩

/-! ## What is promised of a key -/

variable {own : String}

/-- A pass of any key that starts leaves it so that lookups of a key wait for a peer, and
does not call the source for it. -/
theorem Sends.start_keeps (sends : state.Sends key peer) (formed : state.cache.Formed)
    (named : own ≠ "") : (state.start own).1.Sends key peer ∧
      ∀ call ∈ (state.start own).2.1, call ≠ .load key := by
  by_cases same : own = key
  · obtain ⟨asked, sendsNext, started⟩ := sends.start
    rw [same, started]
    refine ⟨sendsNext, fun call mem isLoad => ?_⟩
    rw [isLoad] at mem
    cases List.mem_singleton.mp mem
  · have picked : (state.pick own).1.cache.Formed ∧ ¬ (state.pick own).1.cache.contains key := by
      rw [pick_frame]
      exact ⟨formed, sends.absent⟩
    have absentNext := ((absent_pass named (Ne.symm same)).start picked).2
    refine ⟨sends.of_nature (nature_start state own) absentNext, ?_⟩
    rintro _ mem rfl
    exact same ((calls_start state own fun _ _ => trivial).1 _ mem key rfl).symm

/-- A fetch that ends does so too, if it gives a value when it is for this key. -/
theorem Sends.fetched_keeps (sends : state.Sends key peer) (formed : state.cache.Formed)
    (named : own ≠ "") {outcome : Outcome}
    (succeeds : own = key → ∃ value, outcome.result? = some (.ok value)) :
    (state.fetched own outcome).1.Sends key peer ∧
      ∀ call ∈ (state.fetched own outcome).2.1, call ≠ .load key := by
  by_cases same : own = key
  · obtain ⟨value, isValue⟩ := succeeds same
    unfold GroupState.fetched
    rw [isValue]
    exact ⟨⟨sends.named, sends.absent, sends.owned, sends.held⟩, nofun⟩
  · have now : state.cache.Formed ∧ ¬ state.cache.contains key := ⟨formed, sends.absent⟩
    have absentNext := ((absent_pass named (Ne.symm same)).fetched now outcome).2
    have sameNature : (state.fetched own outcome).1.nature = state.nature :=
      (nature_pass state.nature own).fetched rfl outcome
    refine ⟨sends.of_nature sameNature absentNext, ?_⟩
    rintro _ mem rfl
    exact same ((calls_fetched state own outcome IsPlain).1 _ mem key rfl).symm

/-- As long as fetches of a key give values, a group that has a peer for it does not keep
it, and does not call the source for it. -/
def absent (name : String) (function : String → Except String Octets) (key : String) :
    Promises Group.loads where
  holds state := state.Computes name function ∧ ∃ peer, state.Sends key peer
  admits := (· ≠ "")
  stays _ := Awaits
  accepts own outcome := IsTrue function own outcome ∧
    (own = key → ∃ value, outcome.result? = some (.ok value))
  makes _ call := call ≠ .load key
  fits _ _ := True
  admitted state key plan _ := invariant.admitted state key plan
  greets := by
    rintro state own _ ⟨computes, peer, sends⟩
    exact ⟨⟨(computes.greet own).1, peer, sends.greet computes.formed own⟩, fun _ _ => trivial⟩
  starts := by
    rintro state own _ ⟨computes, peer, sends⟩ named
    obtain ⟨computesNext, keeps⟩ := computes.start named
    obtain ⟨sendsNext, others⟩ := sends.start_keeps computes.formed named
    exact ⟨⟨computesNext, peer, sendsNext⟩, others,
      keeps.mono (fun _ stays => stays) fun _ _ => trivial⟩
  resumes := by
    rintro state own _ _ outcome ⟨computes, peer, sends⟩ named ⟨asked, rfl, _⟩ ⟨isTrue, succeeds⟩
    obtain ⟨sendsNext, others⟩ := sends.fetched_keeps computes.formed named succeeds
    exact ⟨⟨(computes.fetched named isTrue).1, peer, sendsNext⟩, others,
      (computes.fetched_keeps named isTrue).mono (fun _ stays => stays) fun _ _ => trivial⟩
  shares := by
    rintro state ⟨computes, peer, sends⟩
    exact ⟨computes.count .sharedLoad, peer, sends.named, sends.absent, sends.owned, sends.held⟩

/-- A group keeps its limit. -/
def bounded (name : String) (function : String → Except String Octets) (budget : Nat) :
    Promises Group.loads where
  holds state := state.Computes name function ∧ state.cache.Limited budget
  admits := (· ≠ "")
  stays _ := Awaits
  accepts := IsTrue function
  makes _ _ := True
  fits _ _ := True
  admitted state key plan _ := invariant.admitted state key plan
  greets := by
    rintro state own _ ⟨computes, limited⟩
    exact ⟨⟨(computes.greet own).1, limited_greet limited own⟩, fun _ _ => trivial⟩
  starts := by
    rintro state own _ ⟨computes, limited⟩ named
    obtain ⟨computesNext, keeps⟩ := computes.start named
    have limitedNext := (limited_pass budget named).start (by rw [pick_frame]; exact limited)
    exact ⟨⟨computesNext, limitedNext⟩, fun _ _ => trivial,
      keeps.mono (fun _ stays => stays) fun _ _ => trivial⟩
  resumes := by
    rintro state own _ _ outcome ⟨computes, limited⟩ named ⟨asked, rfl, _⟩ isTrue
    exact ⟨⟨(computes.fetched named isTrue).1, (limited_pass budget named).fetched limited outcome⟩,
      fun _ _ => trivial,
      (computes.fetched_keeps named isTrue).mono (fun _ stays => stays) fun _ _ => trivial⟩
  shares := by
    rintro state ⟨computes, limited⟩
    exact ⟨computes.count .sharedLoad, limited⟩

/-- A group without a limit that keeps a key goes on to do so, and does not call the
source for it again. -/
def resident (name : String) (function : String → Except String Octets) (key : String) :
    Promises Group.loads where
  holds state := state.Computes name function ∧ state.cache.Limited 0 ∧ state.cache.contains key
  admits own := own ≠ "" ∧ own ≠ key
  stays _ := Awaits
  accepts := IsTrue function
  makes _ call := call ≠ .load key
  fits _ _ := True
  admitted := by
    rintro state own plan ⟨computes, _, kept⟩ missed
    refine ⟨invariant.admitted state own plan missed, ?_⟩
    rintro rfl
    obtain ⟨value, _, hit⟩ := greet_reads computes.formed kept
    rw [show (state.greet own).2 = none from missed] at hit
    cases hit
  greets := by
    rintro state own _ ⟨computes, limited, kept⟩
    exact ⟨⟨(computes.greet own).1, limited_greet limited own,
      (contains_greet computes.formed own key).mpr kept⟩, fun _ _ => trivial⟩
  starts := by
    rintro state own _ ⟨computes, limited, kept⟩ ⟨named, differs⟩
    obtain ⟨computesNext, keeps⟩ := computes.start named
    have picked : (state.pick own).1.cache.Limited 0 ∧ (state.pick own).1.cache.contains key := by
      rw [pick_frame]
      exact ⟨limited, kept⟩
    have keptNext := (resident_pass named).start picked
    refine ⟨⟨computesNext, keptNext⟩, ?_, keeps.mono (fun _ stays => stays) fun _ _ => trivial⟩
    rintro _ mem rfl
    exact differs ((calls_start state own fun _ _ => trivial).1 _ mem key rfl).symm
  resumes := by
    rintro state own _ _ outcome ⟨computes, limited, kept⟩ ⟨named, differs⟩ ⟨asked, rfl, _⟩ isTrue
    have now : state.cache.Limited 0 ∧ state.cache.contains key := ⟨limited, kept⟩
    have keptNext := (resident_pass named).fetched now outcome
    refine ⟨⟨(computes.fetched named isTrue).1, keptNext⟩, ?_,
      (computes.fetched_keeps named isTrue).mono (fun _ stays => stays) fun _ _ => trivial⟩
    rintro _ mem rfl
    exact differs ((calls_fetched state own outcome IsPlain).1 _ mem key rfl).symm
  shares := by
    rintro state ⟨computes, limited, kept⟩
    exact ⟨computes.count .sharedLoad, limited, kept⟩

end GroupState

/-! ## Lookups that come together -/

namespace Group

open Cluster

variable {group : Group} {name key : String} {function : String → Except String Octets}
  {peer : Peer} {leader ticket waiting : Nat}

/-- So many lookups of a key, one after the other. -/
abbrev lookups (key : String) (count : Nat) : List Event :=
  List.replicate count (.lookup key)

theorem run_lookups (group : Group) (key : String) (count : Nat) :
    group.run (lookups key (count + 1)) =
      (((group.step (.lookup key)).1.run (lookups key count)).1,
        (group.step (.lookup key)).2 ++ ((group.step (.lookup key)).1.run (lookups key count)).2) :=
  rfl

/-- The numbers of lookups that come now. -/
abbrev numbers (group : Group) (count : Nat) : List Nat :=
  List.range' group.nextCaller count

/-- A lookup that waits for no peer ends at once, if nobody else is there. -/
theorem step_local (rests : (GroupState.promises name function).Rests group)
    (nobody : group.callers = []) (isLocal : group.world.IsLocal key) :
    ∃ calls, GroupState.Ends key group.world (group.step (.lookup key)).1.world calls ∧
      (group.step (.lookup key)).1.world.IsLocal key ∧
      (group.step (.lookup key)).1.callers = [] ∧
      (group.step (.lookup key)).1.nextCaller = group.nextCaller + 1 ∧
      ∃ result, (group.step (.lookup key)).2 = calls.map (.called group.nextCaller) ++
        [.ended group.nextCaller key (.returned result)] := by
  obtain ⟨next, calls, ends, isLocalNext⟩ := rests.world.ends_of_local isLocal
  refine ⟨calls, ?_⟩
  cases ends with
  | answered result greeted =>
      have stepped : group.step (.lookup key) = _ := Flight.step_answered nobody greeted
      rw [stepped]
      exact ⟨.answered result greeted, isLocalNext, nobody, rfl, result, rfl⟩
  | passed greeted calls result missed started =>
      have stepped : group.step (.lookup key) = _ :=
        Flight.step_passed rests.sound nobody missed started
      rw [stepped]
      exact ⟨.passed greeted calls result missed started, isLocalNext, nobody, rfl, result, rfl⟩

/-- Lookups that wait for no peer all end, one after the other. -/
theorem run_local (rests : (GroupState.promises name function).Rests group)
    (nobody : group.callers = []) (isLocal : group.world.IsLocal key) (count : Nat) :
    (group.run (lookups key count)).1.callers = [] ∧
      (resultsOf (group.run (lookups key count)).2).map Prod.fst = group.numbers count := by
  induction count generalizing group with
  | zero => exact ⟨nobody, rfl⟩
  | succ count inductionHypothesis =>
      obtain ⟨calls, _, isLocalNext, nobodyNext, next, result, noticed⟩ :=
        step_local rests nobody isLocal
      obtain ⟨left, others⟩ := inductionHypothesis (rests.group_step .lookup).1 nobodyNext isLocalNext
      refine ⟨left, ?_⟩
      rw [run_lookups, resultsOf_append, noticed, resultsOf_append, resultsOf_calls, List.map_append, others,
        numbers, next, numbers, List.range'_succ]
      rfl

/-- Lookups that wait for a peer gather behind the first one. -/
theorem run_gathers (formed : group.world.cache.Formed) (sends : group.world.Sends key peer)
    (gathers : Flight.Gathers key () (.fetching peer) leader ticket waiting group) (count : Nat) :
    Flight.Gathers key () (.fetching peer) leader ticket (waiting + count)
        (group.run (lookups key count)).1 ∧
      (group.run (lookups key count)).2 = [] := by
  induction count generalizing group waiting with
  | zero => exact ⟨gathers, rfl⟩
  | succ count inductionHypothesis =>
      have missed := GroupState.greet_of_absent formed sends.named sends.absent
      have greeted : loads.greet group.world key () = ((group.world.greet key).1, none) := by
        rw [← missed]
        rfl
      have stepped : group.step (.lookup key) = Flight.step loads group (.start key ()) := rfl
      obtain ⟨gathersNext, sameWorld, nothing⟩ := gathers.step greeted
      rw [← stepped] at gathersNext sameWorld nothing
      have formedNext := sameWorld ▸ GroupState.formed_greet formed key
      have sendsNext := sameWorld ▸ sends.greet formed key
      obtain ⟨gathersLast, nothingMore⟩ := inductionHypothesis formedNext sendsNext gathersNext
      have more : waiting + (count + 1) = waiting + 1 + count := by omega
      rw [more, run_lookups, nothing, nothingMore]
      exact ⟨gathersLast, rfl⟩

/-- Lookups of a key that wait for a peer all wait for one fetch. -/
theorem run_sends (rests : (GroupState.promises name function).Rests group)
    (nobody : group.callers = []) (sends : group.world.Sends key peer) (count : Nat) :
    Flight.Gathers key () (.fetching peer) group.nextCaller group.nextTicket count
        (group.run (lookups key (count + 1))).1 ∧
      (group.run (lookups key (count + 1))).2 =
        [.called group.nextCaller (.fetch peer name key)] := by
  have formed := rests.world.formed
  have missed := GroupState.greet_of_absent formed sends.named sends.absent
  have greeted : loads.greet group.world key () = ((group.world.greet key).1, none) := by
    rw [← missed]
    rfl
  obtain ⟨asked, sendsNext, started⟩ := (sends.greet formed key).start
  have sameName : (group.world.greet key).1.name = name :=
    (GroupState.name_of_nature (GroupState.nature_greet group.world key)).trans rests.world.name
  rw [sameName] at started
  have stepped : group.step (.lookup key) = Flight.step loads group (.start key ()) := rfl
  obtain ⟨gathers, sameWorld, noticed⟩ := Flight.step_opened rests.sound nobody greeted started
  rw [← stepped] at gathers sameWorld noticed
  have formedNext : (group.step (.lookup key)).1.world.cache.Formed :=
    (rests.group_step .lookup).1.world.formed
  obtain ⟨gathersLast, nothing⟩ := run_gathers formedNext (sameWorld ▸ sendsNext) gathers count
  rw [Nat.zero_add] at gathersLast
  rw [run_lookups, noticed, nothing]
  exact ⟨gathersLast, rfl⟩

/-- When this fetch ends, all of them end. -/
theorem finish_gathers (rests : (GroupState.promises name function).Rests group)
    (gathers : Flight.Gathers key () (.fetching peer) leader ticket waiting group)
    {outcome : Outcome} (isTrue : GroupState.IsTrue function key outcome) {result : Result}
    (ended : outcome.result? = some result) :
    (group.step (.finish key outcome)).1.callers = [] ∧
      (resultsOf (group.step (.finish key outcome)).2).map Prod.fst =
        List.range' leader (waiting + 1) := by
  have leads : ⟨leader, key, (), .leading ticket (.fetching peer)⟩ ∈ group.callers := by
    rw [gathers.callers]
    exact List.mem_cons_self
  have returned := rests.world.fetched_returns (rests.admitted _ leads) isTrue ended
  have resumed : loads.resume group.world key () (.fetching peer) outcome =
      ((group.world.fetched key outcome).1, (group.world.fetched key outcome).2.1,
        .returned (Source.answer function key)) := by
    rw [← returned]
    rfl
  obtain ⟨left, noticed⟩ := gathers.step_finish resumed
  refine ⟨left, ?_⟩
  rw [show (group.step (.finish key outcome)).2 = _ from noticed, resultsOf_append,
    resultsOf_calls, resultsOf_ended, List.nil_append, List.map_map]
  exact List.map_id _

/-- Lookups of a key keep what a group promises, and show what this allows. -/
theorem run_allows {promises : Promises loads} (rests : promises.Rests group) (key : String)
    (count : Nat) : promises.Rests (group.run (lookups key count)).1 ∧
      ∀ notice ∈ (group.run (lookups key count)).2, promises.Allows key notice := by
  induction count generalizing group with
  | zero => exact ⟨rests, nofun⟩
  | succ count inductionHypothesis =>
      obtain ⟨restsNext, first⟩ := rests.group_step (.lookup : Asks key _ (.lookup key))
      obtain ⟨restsLast, others⟩ := inductionHypothesis restsNext
      rw [run_lookups]
      exact ⟨restsLast, List.forall_mem_append.mpr ⟨first, others⟩⟩

end Group

/-! ## How often the source is called -/

namespace GroupState

variable {state : GroupState} {name key : String} {function : String → Except String Octets}
  {value : Octets}

/-- Without a peer, and without a limit, a pass calls the source once and then keeps the
value. -/
theorem Computes.start_owned (computes : state.Computes name function) (named : key ≠ "")
    (limited : state.cache.Limited 0) (nobody : state.owner? key = none)
    (computed : function key = .ok value) :
    (state.start key).2.1 = [.load key] ∧ (state.start key).1.cache.Limited 0 ∧
      (state.start key).1.cache.contains key := by
  have picked := (pick_eq state key).1.trans nobody
  have limitedPick : (state.pick key).1.cache.Limited 0 := by
    rw [pick_frame]
    exact limited
  have sourcePick : (state.pick key).1.source = .ofFunction function := by
    rw [pick_frame]
    exact computes.source
  refine ⟨(start_of_nobody nobody).1, (limited_pass 0 named).start limitedPick, ?_⟩
  have replied : (Source.ofFunction function).load (state.pick key).1.sourceCalls key =
      .now (.value value) := by
    dsimp only [Source.ofFunction]
    rw [computed]
  rw [GroupState.start, picked]
  dsimp only
  rw [GroupState.load, sourcePick, replied]
  exact limitedPick.contains_put named (.inl rfl) value

end GroupState

namespace Group

open Cluster

variable {group : Group} {name key : String} {function : String → Except String Octets}
  {value : Octets}

/-- Where the source is not called for a key, no call for it is seen. -/
theorem loads_of_allows {promises : Promises loads} {notices : List (Notice Call Result)}
    (allows : ∀ notice ∈ notices, promises.Allows key notice)
    (never : ¬ promises.makes key (.load key)) (index : Nat) :
    Sight.loads name key (loadsOf index name notices) = 0 := by
  refine List.countP_eq_zero.mpr fun sight listed isLoad => ?_
  obtain ⟨id, asked, noticed, rfl⟩ := mem_loadsOf.mp listed
  rw [Sight.isLoad, Bool.and_eq_true, beq_iff_eq, beq_iff_eq] at isLoad
  exact never (isLoad.2 ▸ allows _ noticed)

/-- What happens when lookups come in a group without a limit that keeps the key. -/
theorem run_resident (rests : (GroupState.promises name function).Rests group)
    (nobody : group.callers = []) (limited : group.world.cache.Limited 0)
    (kept : group.world.cache.contains key) (index count : Nat) :
    Sight.loads name key (loadsOf index name (group.run (lookups key count)).2) = 0 ∧
      (group.run (lookups key count)).1.world.cache.Limited 0 ∧
      (group.run (lookups key count)).1.world.cache.contains key := by
  have residentRests := Promises.rests_of_nobody (GroupState.resident name function key)
    rests.sound nobody ⟨rests.world, limited, kept⟩
  obtain ⟨restsLast, allows⟩ := run_allows residentRests key count
  exact ⟨loads_of_allows allows (fun makes => makes rfl) index, restsLast.world.2⟩

/-- A lookup in a group without a limit that has no peer for the key and does not keep it
calls the source once, and then the key is kept. -/
theorem step_owned (rests : (GroupState.promises name function).Rests group)
    (nobody : group.callers = []) (named : key ≠ "") (limited : group.world.cache.Limited 0)
    (owned : group.world.owner? key = none) (computed : function key = .ok value)
    (absent : ¬ group.world.cache.contains key) :
    let stepped := group.step (.lookup key)
    stepped.1.callers = [] ∧ stepped.1.world.cache.Limited 0 ∧
      stepped.1.world.cache.contains key ∧
      ∀ index, Sight.loads name key (loadsOf index name stepped.2) = 1 := by
  have computesGreet := (rests.world.greet key).1
  have ownedGreet : (group.world.greet key).1.owner? key = none := by
    rw [GroupState.owner?_of_nature (GroupState.nature_greet group.world key), owned]
  have greeted : loads.greet group.world key () = ((group.world.greet key).1, none) := by
    rw [← GroupState.greet_of_absent rests.world.formed named absent]
    rfl
  have returned := computesGreet.start_local named
    (by rw [ownedGreet]; exact fun _ isPeer => nomatch isPeer)
  obtain ⟨only, limitedNext, keptNext⟩ := computesGreet.start_owned named
    (GroupState.limited_greet limited key) ownedGreet computed
  have started : loads.start (group.world.greet key).1 key () =
      (((group.world.greet key).1.start key).1, [.load key],
        .returned (Source.answer function key)) := by
    rw [← only, ← returned]
    rfl
  have stepped : group.step (.lookup key) = _ :=
    Flight.step_passed rests.sound nobody greeted started
  rw [stepped]
  refine ⟨nobody, limitedNext, keptNext, fun index => ?_⟩
  rw [loadsOf_append, Sight.loads_append]
  simp [loadsOf, Sight.loads, Sight.isLoad]

/-- Lookups in a group without a limit that has no peer for the key call its source at
most once, and not at all if the key is kept; once it was called, the key is kept. -/
theorem run_owned (rests : (GroupState.promises name function).Rests group)
    (nobody : group.callers = []) (named : key ≠ "") (limited : group.world.cache.Limited 0)
    (owned : group.world.owner? key = none) (computed : function key = .ok value)
    (index count : Nat) :
    let ran := group.run (lookups key count)
    let spent := Sight.loads name key (loadsOf index name ran.2)
    spent ≤ 1 ∧ (group.world.cache.contains key → spent = 0) ∧
      (spent ≠ 0 ∨ group.world.cache.contains key →
        ran.1.world.cache.Limited 0 ∧ ran.1.world.cache.contains key) := by
  by_cases kept : group.world.cache.contains key
  · obtain ⟨nothing, keptLast⟩ := run_resident rests nobody limited kept index count
    exact ⟨nothing.trans_le (Nat.zero_le 1), fun _ => nothing, fun _ => keptLast⟩
  · cases count with
    | zero =>
        exact ⟨Nat.zero_le _, fun _ => rfl, fun either =>
          absurd (either.resolve_left fun spends => spends rfl) kept⟩
    | succ count =>
        obtain ⟨nobodyNext, limitedNext, keptNext, spends⟩ :=
          step_owned rests nobody named limited owned computed kept
        have restsNext := (rests.group_step (.lookup : Asks key _ (.lookup key))).1
        obtain ⟨nothing, keptLast⟩ :=
          run_resident restsNext nobodyNext limitedNext keptNext index count
        dsimp only
        rw [run_lookups, loadsOf_append, Sight.loads_append, spends, nothing]
        exact ⟨Nat.le_refl 1, fun isKept => absurd isKept kept, fun _ => keptLast⟩

end Group

end RingCache
