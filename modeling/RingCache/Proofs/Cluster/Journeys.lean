import RingCache.Proofs.Cluster.Sights

/-!
# The journey of a lookup

Lookups and fetches call each other, and stop when no hop is left. `Cluster.LookedUp` says what
lookups may come to, and `Cluster.Retrieved` what a fetch may, with one rule for each way in which
they go on, and without hops. Whatever `Cluster.lookups` and `Cluster.fetch` do is an instance of
these rules (`Cluster.lookedUp_lookups`, `Cluster.retrieved_fetch`). So a law of both follows from
one case for each rule, whatever the number of hops is.
-/

namespace RingCache

open Http

namespace Cluster

/-- The outcome of a fetch that gives a result. -/
def outcomeOf : Result → Outcome
  | .ok octets => .value octets
  | .error cause => .failure cause

theorem result?_outcomeOf (result : Result) : (outcomeOf result).result? = some result := by
  cases result <;> rfl

/-! ## Rules -/

mutual

/-- What lookups of a key in a group may come to: the cluster that they leave, what is seen of them,
and what is noticed of the key in the group. -/
inductive LookedUp : Cluster → Nat → Nat → String → Cluster → List Sight →
    List (Notice Call Result) → Prop where
  /-- No hop is left. -/
  | idle {cluster : Cluster} {index number : Nat} {key : String} :
      LookedUp cluster index number key cluster [] []
  /-- They start, and no peer is asked. -/
  | started {cluster : Cluster} {index number : Nat} {key : String} (count : Nat) :
      LookedUp cluster index number key (cluster.start index number key count).1
        (loadsOf index (cluster.groupName index number) (cluster.start index number key count).2)
        (cluster.start index number key count).2
  /-- A peer is asked, and its answer is not waited for. -/
  | givenUp {cluster next last : Cluster} {index number : Nat} {key group : String}
      {sights later : List Sight} {notices : List (Notice Call Result)} {client : Client}
      (looked : LookedUp cluster index number key next sights notices)
      (awaits : next.awaited? index number key = some (client, group))
      (fetched : Retrieved next client group key last later none) :
      LookedUp cluster index number key last (sights ++ later) notices
  /-- A peer is asked, and what it gives ends the fetch of the key. -/
  | finished {cluster next last : Cluster} {index number : Nat} {key group : String}
      {sights later : List Sight} {notices : List (Notice Call Result)} {client : Client}
      (result : Result) (looked : LookedUp cluster index number key next sights notices)
      (awaits : next.awaited? index number key = some (client, group))
      (fetched : Retrieved next client group key last later (some result)) :
      LookedUp cluster index number key
        (last.step index number (.finish key (outcomeOf result))).1
        (sights ++ later ++ loadsOf index (cluster.groupName index number)
          (last.step index number (.finish key (outcomeOf result))).2)
        (notices ++ (last.step index number (.finish key (outcomeOf result))).2)

/-- What a fetch of a key of a group by a client may come to: the cluster that it leaves, what is
seen of it, and what it gives. -/
inductive Retrieved : Cluster → Client → String → String → Cluster → List Sight →
    Option Result → Prop where
  /-- No hop is left. -/
  | idle {cluster : Cluster} {client : Client} {group key : String} :
      Retrieved cluster client group key cluster [] none
  /-- The request cannot be sent. -/
  | unsent {cluster : Cluster} {client : Client} {group key : String} {fault : Client.Fault}
      (fails : Transport.target (client.url group key) = .error fault) :
      Retrieved cluster client group key cluster [] (some (.error fault.failure))
  /-- The request ends at no node. -/
  | settled {cluster : Cluster} {client : Client} {group key : String} {url : Url}
      {sights : List Sight} {result : Result}
      (sent : Transport.target (client.url group key) = .ok url)
      (lands : cluster.send (client.url group key) Client.mostRedirects url =
        (sights, .settled result)) :
      Retrieved cluster client group key cluster sights (some result)
  /-- The request ends at a node, which responds at once. -/
  | responded {cluster : Cluster} {client : Client} {group key : String} {url last : Url}
      {sights : List Sight} {index : Nat} {response : Response}
      (sent : Transport.target (client.url group key) = .ok url)
      (lands : cluster.send (client.url group key) Client.mostRedirects url =
        (sights, .node index last))
      (asked : cluster.asked? index last = some (.respond response)) :
      Retrieved cluster client group key cluster sights
        (some (Client.receive (client.url group key) last (delivered response)))
  /-- The request ends at a node, and nothing comes back. -/
  | lost {cluster : Cluster} {client : Client} {group key : String} {url last : Url}
      {sights : List Sight} {index : Nat}
      (sent : Transport.target (client.url group key) = .ok url)
      (lands : cluster.send (client.url group key) Client.mostRedirects url =
        (sights, .node index last)) :
      Retrieved cluster client group key cluster sights
        (some (Client.receive (client.url group key) last .lost))
  /-- The request ends at a node, which answers it with a result of a lookup. -/
  | answered {cluster next : Cluster} {client : Client} {group key asks : String}
      {url last : Url} {index number : Nat} {answer : Result → Response}
      {sights later : List Sight} {notices : List (Notice Call Result)} {result : Result}
      (sent : Transport.target (client.url group key) = .ok url)
      (lands : cluster.send (client.url group key) Client.mostRedirects url =
        (sights, .node index last))
      (asked : cluster.asked? index last = some (.lookup number asks answer))
      (looked : LookedUp cluster index number asks next later notices)
      (listed : result ∈ inOrder (resultsOf notices)) :
      Retrieved cluster client group key next (sights ++ later)
        (some (Client.receive (client.url group key) last (delivered (answer result))))
  /-- The request ends at a node, which looks the key up, but its answer is not waited for. -/
  | unanswered {cluster next : Cluster} {client : Client} {group key asks : String}
      {url last : Url} {index number : Nat} {answer : Result → Response}
      {sights later : List Sight} {notices : List (Notice Call Result)}
      (sent : Transport.target (client.url group key) = .ok url)
      (lands : cluster.send (client.url group key) Client.mostRedirects url =
        (sights, .node index last))
      (asked : cluster.asked? index last = some (.lookup number asks answer))
      (looked : LookedUp cluster index number asks next later notices) :
      Retrieved cluster client group key next (sights ++ later) none

end

/-! ## Lookups and fetches -/

/-- What lookups with so many hops come to is said by the rules. -/
def LooksUpByRules (hops : Nat) : Prop :=
  ∀ (cluster : Cluster) (index number : Nat) (key : String) (count : Nat),
    let looked := lookups hops cluster index number key count
    ∃ notices, LookedUp cluster index number key looked.1 looked.2.1 notices ∧
      ∀ result ∈ looked.2.2, result ∈ inOrder (resultsOf notices)

/-- So is what fetches come to. -/
def FetchesByRules (hops : Nat) : Prop :=
  ∀ (cluster : Cluster) (client : Client) (group key : String),
    let fetched := fetch hops cluster client group key
    Retrieved cluster client group key fetched.1 fetched.2.1 fetched.2.2

/-- Lookups with one more hop. -/
theorem LooksUpByRules.succ {hops : Nat} (fetches : FetchesByRules hops) :
    LooksUpByRules (hops + 1) := by
  intro cluster index number key count
  have started : LookedUp cluster index number key _ _ _ := .started count
  rw [lookups]
  dsimp only
  split
  · exact ⟨_, started, List.forall_mem_nil _⟩
  · exact ⟨_, started, fun _ listed => listed⟩
  · rename_i client group _ awaits
    have fetched := fetches (cluster.start index number key count).1 client group key
    split
    · rename_i found
      rw [found] at fetched
      exact ⟨_, .givenUp started awaits fetched, fun _ listed => listed⟩
    · rename_i after sights result found
      rw [found] at fetched
      exact ⟨_, .finished result started awaits fetched, fun _ listed => listed⟩

/-- Fetches with one more hop. -/
theorem FetchesByRules.succ {hops : Nat} (looksUp : LooksUpByRules hops) :
    FetchesByRules (hops + 1) := by
  intro cluster client group key
  rw [fetch]
  split
  · rename_i fails
    exact .unsent fails
  · rename_i sent
    split
    · rename_i lands
      exact .settled sent lands
    · rename_i index last lands
      split
      · rename_i number asks answer asked
        obtain ⟨notices, looked, listed⟩ := looksUp cluster index number asks 1
        split
        · rename_i found
          rw [found] at looked listed
          exact .answered sent lands asked looked (listed _ List.mem_cons_self)
        · rename_i found
          rw [found] at looked
          exact .unanswered sent lands asked looked
      · rename_i asked
        exact .responded sent lands asked
      · exact .lost sent lands

theorem looksUpByRules_and_fetchesByRules (hops : Nat) :
    LooksUpByRules hops ∧ FetchesByRules hops := by
  induction hops with
  | zero =>
      constructor
      · intro cluster index number key count
        rw [lookups]
        exact ⟨[], .idle, List.forall_mem_nil _⟩
      · intro cluster client group key
        rw [fetch]
        exact .idle
  | succ hops inductionHypothesis =>
      exact ⟨.succ inductionHypothesis.2, .succ inductionHypothesis.1⟩

/-- Lookups come to what the rules say, and return what was noticed. -/
theorem lookedUp_lookups (hops : Nat) (cluster : Cluster) (index number : Nat) (key : String)
    (count : Nat) :
    let looked := lookups hops cluster index number key count
    ∃ notices, LookedUp cluster index number key looked.1 looked.2.1 notices ∧
      ∀ result ∈ looked.2.2, result ∈ inOrder (resultsOf notices) :=
  (looksUpByRules_and_fetchesByRules hops).1 cluster index number key count

/-- Fetches come to what the rules say. -/
theorem retrieved_fetch (hops : Nat) (cluster : Cluster) (client : Client) (group key : String) :
    let fetched := fetch hops cluster client group key
    Retrieved cluster client group key fetched.1 fetched.2.1 fetched.2.2 :=
  (looksUpByRules_and_fetchesByRules hops).2 cluster client group key

/-! ## What every event keeps -/

/-- Whether a property of clusters is kept by every event, whatever group it happens to. -/
def KeptByEvents (holds : Cluster → Prop) : Prop :=
  ∀ (cluster : Cluster) (index number : Nat) (event : Group.Event),
    holds cluster → holds (cluster.step index number event).1

variable {holds : Cluster → Prop}

theorem KeptByEvents.start (kept : KeptByEvents holds) {cluster : Cluster} (now : holds cluster)
    (index number : Nat) (key : String) (count : Nat) :
    holds (cluster.start index number key count).1 := by
  induction count generalizing cluster with
  | zero => exact now
  | succ count inductionHypothesis =>
      exact inductionHypothesis (kept cluster index number (.lookup key) now)

/-- What is noticed of lookups that start is noticed of one of them, where the property holds. -/
theorem KeptByEvents.exists_step (kept : KeptByEvents holds) {cluster : Cluster}
    (now : holds cluster) {index number count : Nat} {key : String} {notice : Notice Call Result}
    (noticed : notice ∈ (cluster.start index number key count).2) :
    ∃ earlier, holds earlier ∧ notice ∈ (earlier.step index number (.lookup key)).2 := by
  induction count generalizing cluster with
  | zero => cases noticed
  | succ count inductionHypothesis =>
      rcases List.mem_append.mp noticed with first | others
      · exact ⟨cluster, now, first⟩
      · exact inductionHypothesis (kept cluster index number (.lookup key) now) others

mutual

/-- Lookups are events one after the other, and so keep the property. -/
theorem LookedUp.keeps {cluster next : Cluster} {index number : Nat} {key : String}
    {sights : List Sight} {notices : List (Notice Call Result)}
    (looked : LookedUp cluster index number key next sights notices) (kept : KeptByEvents holds)
    (now : holds cluster) : holds next :=
  match looked with
  | .idle => now
  | .started count => kept.start now index number key count
  | .givenUp looked _ fetched => fetched.keeps kept (looked.keeps kept now)
  | .finished result looked _ fetched =>
      kept _ index number (.finish key (outcomeOf result)) (fetched.keeps kept (looked.keeps kept now))
termination_by structural looked

/-- So is a fetch. -/
theorem Retrieved.keeps {cluster next : Cluster} {client : Client} {group key : String}
    {sights : List Sight} {given : Option Result}
    (fetched : Retrieved cluster client group key next sights given) (kept : KeptByEvents holds)
    (now : holds cluster) : holds next :=
  match fetched with
  | .idle => now
  | .unsent _ => now
  | .settled _ _ => now
  | .responded _ _ _ => now
  | .lost _ _ => now
  | .answered _ _ _ looked _ => looked.keeps kept now
  | .unanswered _ _ _ looked => looked.keeps kept now
termination_by structural fetched

end

theorem KeptByEvents.lookups (kept : KeptByEvents holds) {cluster : Cluster} (now : holds cluster)
    (hops index number : Nat) (key : String) (count : Nat) :
    holds (lookups hops cluster index number key count).1 := by
  obtain ⟨_, looked, _⟩ := lookedUp_lookups hops cluster index number key count
  exact looked.keeps kept now

end Cluster

end RingCache
