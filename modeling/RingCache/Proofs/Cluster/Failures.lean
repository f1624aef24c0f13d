import RingCache.Proofs.Cluster.Journeys
import RingCache.Proofs.Cluster.Nodes
import RingCache.Proofs.Cluster.Sights
import RingCache.Proofs.Group.Failures
import RingCache.Proofs.Node.Answers

/-!
# Nobody sees a peer fail

A cluster is anywhere that happenings to its groups can take it (`Cluster.Reached`), and it
stays there whatever it is asked. Since no lookup in such a group returns the failure of a
peer, and a node answers with the status of what its lookup returns, no request is answered
as a failure of transport is, with status 502 (`Cluster.peer_failures_stay_inside`).
-/

namespace RingCache

open Http

variable {group : Group} {key : String} {result : Result}

/-- No lookup returns what is answered with status 502. -/
theorem Group.Returns.status_ne (returns : Group.Returns key result) : statusOf result ≠ 502 := by
  cases returns with
  | unnamed isEmpty => simp [statusOf, Failure.status]
  | value named octets => simp [statusOf]
  | failed named text => simp [statusOf, Failure.status]

/-- An event on a group that a run reaches shows only results that lookups may return. -/
theorem Group.Reached.returns_step (reached : group.Reached) {event : Group.Event} {id : Nat}
    (ended : .ended id key (.returned result) ∈ (group.step event).2) :
    Group.Returns key result := by
  obtain ⟨run, index, noticed⟩ := (reached.step event).2 _ ended
  exact GroupRun.returns_of_ended noticed

namespace Cluster

/-- Whether every group of a cluster is as some run makes it. -/
def Reached (cluster : Cluster) : Prop :=
  ∀ index number group, cluster.group? index number = some group → group.Reached

variable {cluster : Cluster} {index number : Nat}

/-! ## Events -/

/-- Whether only results are seen that lookups may return. -/
def Fit (notices : List (Notice Call Result)) : Prop :=
  ∀ id key result, .ended id key (.returned result) ∈ notices → Group.Returns key result

theorem Fit.append {first second : List (Notice Call Result)} (fits : Fit first)
    (alsoFits : Fit second) : Fit (first ++ second) := by
  intro id key result ended
  rcases List.mem_append.mp ended with early | late
  · exact fits id key result early
  · exact alsoFits id key result late

/-- Results among such notices are none that are answered with status 502. -/
theorem Fit.status_ne {notices : List (Notice Call Result)} (fits : Fit notices) :
    ∀ result ∈ inOrder (resultsOf notices), statusOf result ≠ 502 := by
  intro result mem
  obtain ⟨id, key, ended⟩ := exists_ended_of_mem mem
  exact (fits id key result ended).status_ne

theorem Reached.step (reached : cluster.Reached) (index number : Nat) (event : Group.Event) :
    (cluster.step index number event).1.Reached ∧ Fit (cluster.step index number event).2 := by
  constructor
  · intro otherIndex otherNumber after found
    obtain ⟨before, present, rfl | ⟨_, _, rfl⟩⟩ := exists_group_of_step found
    · exact reached otherIndex otherNumber after present
    · exact ((reached otherIndex otherNumber before present).step event).1
  · intro id key result ended
    obtain ⟨group, found, seen⟩ := exists_group_of_notice ended
    exact (reached index number group found).returns_step seen

theorem Reached.start (reached : cluster.Reached) (index number : Nat) (key : String)
    (count : Nat) :
    (cluster.start index number key count).1.Reached ∧
      Fit (cluster.start index number key count).2 := by
  induction count generalizing cluster with
  | zero => exact ⟨reached, nofun⟩
  | succ count inductionHypothesis =>
      obtain ⟨next, first⟩ := reached.step index number (.lookup key)
      obtain ⟨last, others⟩ := inductionHypothesis next
      exact ⟨last, first.append others⟩

/-! ## Lookups and fetches -/

/-- Whether lookups keep a cluster where runs take it and return no failure of a peer, when so
many hops are left. -/
def LookupsHold (hops : Nat) : Prop :=
  ∀ (cluster : Cluster) (index number : Nat) (key : String) (count : Nat), cluster.Reached →
    let looked := lookups hops cluster index number key count
    looked.1.Reached ∧ ∀ result ∈ looked.2.2, statusOf result ≠ 502

/-- Whether fetches keep a cluster there, when so many hops are left. -/
def FetchesHold (hops : Nat) : Prop :=
  ∀ (cluster : Cluster) (client : Client) (group key : String), cluster.Reached →
    (fetch hops cluster client group key).1.Reached

mutual

/-- Lookups leave a cluster where runs take it, and show only results that they may return. -/
theorem LookedUp.reached {cluster next : Cluster} {index number : Nat} {key : String}
    {sights : List Sight} {notices : List (Notice Call Result)}
    (looked : LookedUp cluster index number key next sights notices) (reached : cluster.Reached) :
    next.Reached ∧ Fit notices :=
  match looked with
  | .idle => ⟨reached, nofun⟩
  | .started count => reached.start index number key count
  | .givenUp looked _ fetched => by
      obtain ⟨started, early⟩ := looked.reached reached
      exact ⟨fetched.reached started, early⟩
  | .finished result looked _ fetched => by
      obtain ⟨started, early⟩ := looked.reached reached
      obtain ⟨finished, late⟩ :=
        (fetched.reached started).step index number (.finish key (outcomeOf result))
      exact ⟨finished, early.append late⟩
termination_by structural looked

/-- So does a fetch. -/
theorem Retrieved.reached {cluster next : Cluster} {client : Client} {group key : String}
    {sights : List Sight} {given : Option Result}
    (fetched : Retrieved cluster client group key next sights given) (reached : cluster.Reached) :
    next.Reached :=
  match fetched with
  | .idle => reached
  | .unsent _ => reached
  | .settled _ _ => reached
  | .responded _ _ _ => reached
  | .lost _ _ => reached
  | .answered _ _ _ looked _ => (looked.reached reached).1
  | .unanswered _ _ _ looked => (looked.reached reached).1
termination_by structural fetched

end

theorem lookupsHold_and_fetchesHold (hops : Nat) : LookupsHold hops ∧ FetchesHold hops := by
  constructor
  · intro cluster index number key count reached
    obtain ⟨notices, looked, listed⟩ := lookedUp_lookups hops cluster index number key count
    obtain ⟨stays, fits⟩ := looked.reached reached
    exact ⟨stays, fun result mem => fits.status_ne result (listed result mem)⟩
  · intro cluster client group key reached
    exact (retrieved_fetch hops cluster client group key).reached reached

/-! ## Requests -/

/-- New peers for a node leave the cluster where runs take it. -/
theorem Reached.setPeers (reached : cluster.Reached) {node : Node}
    (present : cluster.node? index = some node) (peers : List String) :
    (cluster.setNode index (node.setPeers peers)).Reached := by
  intro otherIndex otherNumber after found
  obtain ⟨before, wasFound, rfl | ⟨pool, rfl⟩⟩ := exists_group_of_setPeers present found
  · exact reached otherIndex otherNumber after wasFound
  · exact (reached otherIndex otherNumber before wasFound).equip _

/-- A request leaves a cluster where runs take it, and is not answered as a failure of
transport is. -/
theorem Reached.serve (reached : cluster.Reached) (index : Nat) (time : String)
    (request : Request) :
    let served := cluster.serve index time request
    served.1.Reached ∧ ∀ response, served.2.2 = some response → response.status ≠ 502 := by
  intro served
  cases present : cluster.node? index with
  | none =>
      simp only [served, Cluster.serve, present]
      exact ⟨reached, nofun⟩
  | some node =>
      have reports := node.reports_decide time request
      cases decided : node.decide time request with
      | respond own =>
          rw [decided] at reports
          simp only [served, Cluster.serve, present, decided]
          refine ⟨reached, fun response isOwn => ?_⟩
          exact Option.some.inj isOwn ▸ reports
      | replacePeers peers =>
          simp only [served, Cluster.serve, present, decided]
          refine ⟨reached.setPeers present peers, fun response isList => ?_⟩
          rw [← Option.some.inj isList, Node.status_peersResponse]
          decide
      | lookup number key answer =>
          rw [decided] at reports
          obtain ⟨stays, returned⟩ :=
            (lookupsHold_and_fetchesHold cluster.hops).1 cluster index number key 1 reached
          simp only [served, Cluster.serve, present, decided]
          refine ⟨stays, fun response isAnswer => ?_⟩
          obtain ⟨result, isFirst, rfl⟩ := Option.map_eq_some_iff.mp isAnswer
          rw [reports result]
          exact returned result (List.mem_of_mem_head? isFirst)

/-! ## Clusters as they are built -/

/-- Groups that ask the pool of their node are where runs take them. -/
theorem reached_build (setups : List Setup) (hosts : List (String × Host)) :
    (build setups hosts).Reached := by
  intro index number group found
  obtain ⟨setup, _, entry, _, rfl⟩ := exists_entry_build found
  exact (Group.Reached.create entry.1 entry.2.1 entry.2.2).equip (some setup.pool.picker)

/-- In every run of a group, a lookup that returns fails for want of a key exactly if it has
none, and this at once. Any other lookup that returns gives a value, or it fails with the text
that a call of the source for its key has left, made in a pass whose result the lookup received.
When a fetch fails, the pass calls the source, it returns what the source gives, and nobody
receives anything else from it. So no node answers a request with status 502: not at once, not
after a lookup in any such run, whose result gives the status, and not in a cluster whose groups
are anywhere that runs take them, where the request leaves them too. -/
theorem peer_failures_stay_inside (name : String) (budget : Nat) (source : Source)
    (happening : Nat → Happening (Option Picker) Unit) :
    let run : GroupRun := .create name budget source happening
    (∀ index id key result, .ended id key (.returned result) ∈ run.notices index →
      (result = .error .emptyKey ↔ key = "") ∧
      (key ≠ "" → (∃ value, result = .ok value) ∨
        ∃ text, result = .error (.loader text) ∧ run.Blames index id key text)) ∧
    (∀ index, run.happening index = .event (.start "" ()) → run.notices index =
      [.ended (run.state index).nextCaller "" (.returned (.error .emptyKey))]) ∧
    (∀ time leader outcome, run.FetchEnds time leader outcome → outcome.fails →
      run.FallsBack time leader) ∧
    (∀ (node : Node) time request,
      (∀ response, node.decide time request = .respond response → response.status ≠ 502) ∧
      ∀ number key answer, node.decide time request = .lookup number key answer →
        ∀ index id asked result, .ended id asked (.returned result) ∈ run.notices index →
          (answer result).status = statusOf result ∧ statusOf result ≠ 502) ∧
    ∀ cluster : Cluster, cluster.Reached → ∀ index time request,
      let served := cluster.serve index time request
      served.1.Reached ∧ ∀ response, served.2.2 = some response → response.status ≠ 502 := by
  intro run
  refine ⟨fun index id key result ended => ?_, fun index started => ?_,
    fun time leader outcome ends fails => GroupRun.fallsBack_of_fails ends fails,
    fun node time request => ?_, fun cluster reached => reached.serve⟩
  · cases GroupRun.returns_of_ended ended with
    | unnamed isEmpty => exact ⟨iff_of_true rfl isEmpty, fun named => absurd isEmpty named⟩
    | value named octets => exact ⟨iff_of_false nofun named, fun _ => .inl ⟨octets, rfl⟩⟩
    | failed named text =>
        exact ⟨iff_of_false nofun named, fun _ => .inr ⟨text, rfl, GroupRun.blames_of_ended ended⟩⟩
  · have answers : run.Answers index (run.state index).nextCaller "" (.error .emptyKey) :=
      ⟨rfl, (), started, rfl⟩
    exact answers.next.1
  · have reports := node.reports_decide time request
    constructor
    · intro response decided
      rwa [decided] at reports
    · intro number key answer decided index id asked result ended
      rw [decided] at reports
      exact ⟨reports result, (GroupRun.returns_of_ended ended).status_ne⟩

/-- A peer refuses two lookups that share a pass, and then the source fails. -/
theorem refused_fetch_stays_inside :
    let peer : Peer := ⟨"http://b:2", fun _ _ => .held⟩
    let run : GroupRun := .create "scores" 64 .held fun
      | 0 => .act (some fun _ => some peer)
      | 1 => .event (.start "Tom" ())
      | 2 => .event (.start "Tom" ())
      | 3 => .event (.finish "Tom" (.failure (.transport "refused")))
      | 4 => .event (.finish "Tom" (.chain ["loading Tom", "row missing"]))
      | 5 => .wake 1
      | _ => .nothing
    let result : Result := .error (.loader "loading Tom: row missing")
    let cluster := build [⟨"http://a:1", some "a:1", ["http://a:1", "http://b:2"], 1,
      [("scores", 64, .held)]⟩] [("b:2", .down)]
    run.FetchEnds 3 0 (.failure (.transport "refused")) ∧
      Outcome.fails (.failure (.transport "refused")) ∧ run.FallsBack 3 0 ∧
      .ended 1 "Tom" (.returned result) ∈ run.notices 5 ∧
      run.Blames 5 1 "Tom" "loading Tom: row missing" ∧
      cluster.Reached ∧ ∀ index time request response,
        (cluster.serve index time request).2.2 = some response → response.status ≠ 502 := by
  intro peer run result cluster
  obtain ⟨returns, _, fallsBack, _, serves⟩ := peer_failures_stay_inside "scores" 64 .held
    run.happening
  have waits : ∃ caller ∈ (run.state 3).callers,
      caller.id = 0 ∧ caller.key = "Tom" ∧ caller.phase = .leading 0 (.fetching peer) :=
    ⟨_, List.mem_cons_self, rfl, rfl, rfl⟩
  have ends : run.FetchEnds 3 0 (.failure (.transport "refused")) :=
    .later "Tom" 0 peer waits rfl
  have fails : Outcome.fails (.failure (.transport "refused")) := ⟨_, rfl⟩
  have ended : .ended 1 "Tom" (.returned result) ∈ run.notices 5 := List.mem_singleton_self _
  have blames : run.Blames 5 1 "Tom" "loading Tom: row missing" := by
    rcases (returns 5 1 "Tom" result ended).2 (by decide) with
      ⟨value, isValue⟩ | ⟨text, isText, blames⟩
    · simp [result] at isValue
    · obtain rfl : "loading Tom: row missing" = text :=
        Failure.loader.inj (Except.error.inj isText)
      exact blames
  have reached : cluster.Reached := reached_build _ _
  exact ⟨ends, fails, fallsBack 3 0 _ ends fails, ended, blames, reached,
    fun index time request => (serves cluster reached index time request).2⟩

end Cluster

end RingCache
