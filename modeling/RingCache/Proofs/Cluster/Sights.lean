import RingCache.Cluster
import RingCache.Proofs.Ascending

/-!
# What is seen of a cluster

From the notices of a step, `Cluster.loadsOf` takes the calls of the source, and
`Cluster.resultsOf` the results with the numbers of their lookups. Both read one notice
after the other. Results whose numbers ascend are in order as they are.
-/

namespace RingCache

/-! ## Calls and requests -/

namespace Sight

/-- Whether something seen is a call of the source of a group for a key. -/
def isLoad (group key : String) : Sight → Bool
  | .load _ other asked => other == group && asked == key
  | .request _ => false

/-- How many calls of the source of a group for a key were seen. -/
def loads (group key : String) (sights : List Sight) : Nat :=
  sights.countP (isLoad group key)

/-- The URLs of the requests that were seen. -/
def requests (sights : List Sight) : List Url :=
  sights.filterMap fun
    | .request url => some url
    | .load _ _ _ => none

theorem loads_append (group key : String) (first second : List Sight) :
    loads group key (first ++ second) = loads group key first + loads group key second :=
  List.countP_append

theorem loads_request (group key : String) (url : Url) (sights : List Sight) :
    loads group key (.request url :: sights) = loads group key sights :=
  List.countP_cons_of_neg Bool.false_ne_true

theorem requests_append (first second : List Sight) :
    requests (first ++ second) = requests first ++ requests second :=
  List.filterMap_append

theorem requests_request (url : Url) (sights : List Sight) :
    requests (.request url :: sights) = url :: requests sights :=
  rfl

end Sight

namespace Cluster

variable {index : Nat} {group : String} {notices : List (Notice Call Result)}

/-- A call of a source among the sights is one among the notices. -/
theorem mem_loadsOf {sight : Sight} :
    sight ∈ loadsOf index group notices ↔
      ∃ id key, .called id (.load key) ∈ notices ∧ sight = .load index group key := by
  rw [loadsOf, List.mem_filterMap]
  constructor
  · rintro ⟨notice, listed, isSight⟩
    split at isSight
    · exact ⟨_, _, listed, (Option.some.inj isSight).symm⟩
    · cases isSight
  · rintro ⟨id, key, listed, rfl⟩
    exact ⟨_, listed, rfl⟩

theorem loadsOf_append (index : Nat) (group : String) (first second : List (Notice Call Result)) :
    loadsOf index group (first ++ second) = loadsOf index group first ++ loadsOf index group second :=
  List.filterMap_append

/-- Calls of a source are no requests. -/
theorem requests_loadsOf : Sight.requests (loadsOf index group notices) = [] := by
  refine List.filterMap_eq_nil_iff.mpr fun sight listed => ?_
  obtain ⟨id, key, _, rfl⟩ := mem_loadsOf.mp listed
  rfl

/-! ## Results -/

theorem resultsOf_append (first second : List (Notice Call Result)) :
    resultsOf (first ++ second) = resultsOf first ++ resultsOf second :=
  List.filterMap_append

/-- Calls are no results. -/
theorem resultsOf_calls (id : Nat) (calls : List Call) :
    resultsOf (calls.map (Notice.called id)) = [] := by
  refine List.filterMap_eq_nil_iff.mpr fun notice mem => ?_
  obtain ⟨call, _, rfl⟩ := List.mem_map.mp mem
  rfl

/-- Who returns has its result. -/
theorem resultsOf_ended (ids : List Nat) (key : String) (result : Result) :
    resultsOf (ids.map fun id => .ended id key (.returned result)) =
      ids.map fun id => (id, result) := by
  rw [resultsOf, List.filterMap_map]
  exact congrFun List.filterMap_eq_map ids

/-- The results among notices, in the order of their lookups, are results that some
lookups have returned. -/
theorem exists_ended_of_mem {result : Result} (mem : result ∈ inOrder (resultsOf notices)) :
    ∃ id other, .ended id other (.returned result) ∈ notices := by
  obtain ⟨numbered, listed, rfl⟩ := List.mem_map.mp mem
  obtain ⟨notice, noticed, isResult⟩ :=
    List.mem_filterMap.mp (Ascending.mem_of_mem_ofList listed)
  split at isResult
  · rw [← Option.some.inj isResult]
    exact ⟨_, _, noticed⟩
  · cases isResult

/-- One result is in order. -/
theorem inOrder_singleton (id : Nat) (result : Result) : inOrder [(id, result)] = [result] := by
  have ascends : Ascending.Ascends [(id, result)] := List.pairwise_singleton _ _
  rw [inOrder, ascends.ofList_eq]
  rfl

/-- Results whose numbers count up are in order as they are. -/
theorem length_inOrder {results : List (Nat × Result)} {first count : Nat}
    (numbered : results.map Prod.fst = List.range' first count) :
    (inOrder results).length = count := by
  have ascends : Ascending.Ascends results := by
    have less : (results.map Prod.fst).Pairwise (· < ·) := by
      rw [numbered]
      exact List.pairwise_lt_range'
    exact List.pairwise_map.mp less
  rw [inOrder, ascends.ofList_eq, List.length_map]
  have sameLength := congrArg List.length numbered
  rwa [List.length_map, List.length_range'] at sameLength

end Cluster

end RingCache
