import RingCache.Proofs.Cluster.Lookups

/-!
# What a cluster returns

In a cluster whose nodes compute one function in their groups of a name, it makes no
difference to the result of a lookup which node is asked, which nodes take it up on the
way and which of them fail (`Cluster.results_are_values`), as long as no host sends
clients on. It starts so (`Cluster.computes_build`), and every query keeps it so
(`Cluster.Computes.inquire`).
-/

namespace RingCache.Cluster

variable {name group key : String} {function : String → Except String Octets}
  {cluster : Cluster}

/-- What a node's pool picks is a client of one of its peers. -/
theorem Setup.exists_address (setup : Setup) {peer : Peer}
    (picked : setup.pool.picker key = some peer) :
    ∃ address ∈ Pool.addresses setup.peers,
      peer = (PeerPath.clientOf address).peer .online := by
  obtain ⟨client, isPicked, rfl⟩ := Option.map_eq_some_iff.mp picked
  rw [Setup.pool, Pool.among, Pool.pick?_setPeers] at isPicked
  obtain ⟨owner, owns, isClient⟩ := Option.bind_eq_some_iff.mp isPicked
  refine ⟨owner, (Pool.ringOf_holds _ _).owner_mem owns, ?_⟩
  split at isClient
  · cases isClient
  · rw [← Option.some.inj isClient]
    rfl

/-- If all peers of a node are plain origins, its groups ask plain peers. -/
theorem Setup.asks_plain {setup : Setup}
    (plain : ∀ address ∈ Pool.addresses setup.peers, Url.isOrigin address)
    (entry : String × Nat × Source) (key : String) (peer : Peer)
    (picked : (setup.group entry).world.owner? key = some peer) : GroupState.IsPlain peer := by
  obtain ⟨address, listed, isPeer⟩ := setup.exists_address picked
  exact ⟨address, plain address listed, isPeer⟩

/-- Then a new group computes a function, if its source does. -/
theorem Setup.rests_group {setup : Setup}
    (plain : ∀ address ∈ Pool.addresses setup.peers, Url.isOrigin address)
    {entry : String × Nat × Source} (named : entry.1 = name)
    (source : entry.2.2 = .ofFunction function) :
    (GroupState.promises name function).Rests (setup.group entry) :=
  Promises.rests_of_nobody _ (Flight.Sound.empty _) rfl
    ⟨named, source, nofun, nofun, Setup.asks_plain plain entry⟩

/-- A cluster computes a function from the start, if the sources of its groups of a name
do, all peers are plain origins, and all hosts refuse and send no client on. -/
theorem computes_build {setups : List Setup} {hosts : List (String × Host)}
    (sources : ∀ setup ∈ setups, ∀ entry ∈ setup.groups, entry.1 = name →
      entry.2.2 = .ofFunction function)
    (plain : ∀ setup ∈ setups, ∀ address ∈ Pool.addresses setup.peers, Url.isOrigin address)
    (refuse : ∀ host ∈ hosts, host.2.refuses) (direct : ∀ host ∈ hosts, host.2.stays) :
    (build setups hosts).Computes name function := by
  have nodes : ∀ index node, (build setups hosts).node? index = some node →
      ∃ setup ∈ setups, node = setup.node := by
    intro index node present
    rw [node?_build] at present
    obtain ⟨setup, listed, rfl⟩ := Option.map_eq_some_iff.mp present
    exact ⟨setup, List.mem_of_getElem? listed, rfl⟩
  have groups : ∀ index number group, (build setups hosts).group? index number = some group →
      ∃ setup ∈ setups, ∃ entry ∈ setup.groups, group = setup.group entry := by
    intro index number group found
    obtain ⟨setup, listed, created⟩ := exists_entry_build found
    exact ⟨setup, List.mem_of_getElem? listed, created⟩
  refine ⟨⟨direct, ?_, ?_, ?_⟩, refuse, ?_⟩
  · intro index node present
    obtain ⟨setup, _, rfl⟩ := nodes index node present
    exact setup.basePath_node
  · intro index node present other number leads
    obtain ⟨setup, _, rfl⟩ := nodes index node present
    obtain ⟨group, listed, isName⟩ := setup.indexed_node other number leads
    exact ⟨group, (congrArg (·.bind (·.registry.groups[number]?)) present).trans listed, isName⟩
  · intro index number group found
    obtain ⟨setup, mem, entry, _, rfl⟩ := groups index number group found
    exact Promises.rests_of_nobody _ (Flight.Sound.empty _) rfl
      ⟨rfl, Setup.asks_plain (plain setup mem) entry⟩
  · intro index number group found isName
    obtain ⟨setup, mem, entry, entryMem, rfl⟩ := groups index number group found
    have named : entry.1 = name := (groupName_of_group? found).symm.trans isName
    exact Setup.rests_group (plain setup mem) named (sources setup mem entry entryMem named)

/-- Lookups in the group of a name are lookups in a group of this name. -/
theorem Computes.exists_group (computes : cluster.Computes name function) {count : Nat}
    {looked : Cluster × List Sight × List Result}
    (got : cluster.get? index group key count = some looked) :
    ∃ node number found, cluster.node? index = some node ∧
      node.registry.number? group = some number ∧
      cluster.group? index number = some found ∧ found.name = group ∧
      looked = lookups cluster.hops cluster index number key count := by
  obtain ⟨node, present, found⟩ := Option.bind_eq_some_iff.mp got
  obtain ⟨number, leads, isLooked⟩ := Option.bind_eq_some_iff.mp found
  obtain ⟨listed, isListed, isName⟩ := computes.indexed index node present group number leads
  exact ⟨node, number, listed, present, leads, isListed, isName, (Option.some.inj isLooked).symm⟩

/-- Queries keep that the cluster computes the function, and lookups of the group return
what they are to return. -/
theorem Computes.inquire (computes : cluster.Computes name function) (queries : List Query) :
    ∀ reading ∈ (cluster.inquire queries).2, reading.query.group = name →
      ∀ result ∈ reading.results, result = Source.answer function reading.query.key := by
  induction queries generalizing cluster with
  | nil => exact nofun
  | cons query rest inductionHypothesis =>
      rw [Cluster.inquire]
      split
      · exact inductionHypothesis computes
      · rename_i next sights results got
        obtain ⟨_, number, found, _, _, isFound, foundName, isLooked⟩ := computes.exists_group got
        have isGroup := (groupName_of_group? isFound).trans foundName
        obtain ⟨moves, returned⟩ := (looksUp_and_fetches name function _).1 cluster query.index
          number query.key query.count computes
        rw [← isLooked, isGroup] at moves returned
        intro reading mem isName
        rcases List.mem_cons.mp mem with rfl | later
        · exact returned isName
        · exact inductionHypothesis moves.computes reading later isName

/-- The first query has its reading. -/
theorem mem_inquire {query : Query} {next : Cluster} {sights : List Sight} {results : List Result}
    (got : cluster.get? query.index query.group query.key query.count =
      some (next, sights, results)) (rest : List Query) :
    ⟨query, sights, results⟩ ∈ (cluster.inquire (query :: rest)).2 := by
  rw [Cluster.inquire, got]
  exact List.mem_cons_self

/-- In a cluster whose nodes have the default base path, whose peers are plain origins
and whose groups of a name all compute one function, every lookup of the group that ends
returns the value of the function for its key, or the failure of the source with the
function's text. It makes no difference which peers and how many ring positions each
node knows, what its budgets are, which other groups it has, under which authority it is
reached, and which hosts are down or refuse. But no host may send clients on: what they
find elsewhere may be the value of another key. -/
theorem results_are_values (setups : List Setup) (hosts : List (String × Host)) (name : String)
    (function : String → Except String Octets) (queries : List Query)
    (sources : ∀ setup ∈ setups, ∀ entry ∈ setup.groups, entry.1 = name →
      entry.2.2 = .ofFunction function)
    (plain : ∀ setup ∈ setups, ∀ address ∈ Pool.addresses setup.peers, Url.isOrigin address)
    (refuse : ∀ host ∈ hosts, host.2.refuses) (direct : ∀ host ∈ hosts, host.2.stays) :
    ∀ reading ∈ ((build setups hosts).inquire queries).2,
      reading.query.group = name → reading.query.key ≠ "" →
        ∀ result ∈ reading.results,
          result = (function reading.query.key).mapError .loader := by
  intro reading mem isName named result listed
  have computes := computes_build sources plain refuse direct
  have isAnswer := computes.inquire queries reading mem isName result listed
  rwa [Source.answer, if_neg named] at isAnswer

/-- Two nodes that do not agree on their peers, and a host that fails, so that a node which asks it
computes the value itself. -/
theorem two_nodes_return_values :
    let function (key : String) : Except String Octets := .ok (Utf8.encode key)
    let setups : List Setup :=
      [⟨"http://a:1", some "a:1", ["http://a:1", " http://b:2/"], 1,
          [("scores", 0, .ofFunction function), ("names", 9, .held)]⟩,
        ⟨"http://b:2", some "b:2", ["http://c:3", ""], 2, [("scores", 5, .ofFunction function)]⟩]
    let cluster := build setups [("c:3", .fixed 500 [] false), ("*", .down)]
    let readings := (cluster.inquire [⟨1, "scores", "Tom", 2⟩, ⟨0, "scores", "..", 1⟩]).2
    (∀ reading ∈ readings, reading.query.group = "scores" → reading.query.key ≠ "" →
      ∀ result ∈ reading.results,
        result = (Except.ok (Utf8.encode reading.query.key)).mapError .loader) ∧
    ∃ reading ∈ readings, reading.query.key = "Tom" ∧
      reading.results = [.ok (Utf8.encode "Tom"), .ok (Utf8.encode "Tom")] := by
  intro function setups cluster readings
  have sources : ∀ setup ∈ setups, ∀ entry ∈ setup.groups, entry.1 = "scores" →
      entry.2.2 = .ofFunction function := by
    intro setup mem entry listed named
    simp only [setups, List.mem_cons, List.not_mem_nil, or_false] at mem
    rcases mem with rfl | rfl
    · simp only [List.mem_cons, List.not_mem_nil, or_false] at listed
      rcases listed with rfl | rfl
      · rfl
      · exact absurd named (by decide)
    · rw [List.mem_singleton.mp listed]
  refine ⟨results_are_values setups _ "scores" function _ sources (by decide) (by decide)
    (by decide), ?_⟩
  have computes : cluster.Computes "scores" function :=
    computes_build sources (by decide) (by decide) (by decide)
  obtain ⟨group, found, isName, nobody, absent, picks⟩ : ∃ group,
      cluster.group? 1 0 = some group ∧ group.name = "scores" ∧ group.callers = [] ∧
        ¬ group.world.cache.contains "Tom" ∧
        group.world.owner? "Tom" = some ((PeerPath.clientOf "http://c:3").peer .online) :=
    ⟨_, rfl, rfl, rfl, by decide,
      (Setup.picker_of_alone rfl (by decide) "Tom").trans (if_neg (by decide))⟩
  have sent : Transport.target ((PeerPath.clientOf "http://c:3").url "scores" "Tom") =
      .ok { scheme := "http", host := some "c", port := some 3, path := "/_cache/scores/Tom" } := by
    refine PeerPath.target_of_parse? (by decide +kernel) (by decide +kernel) rfl rfl ?_
    rw [PeerPath.isSendable_eq]
    decide +kernel
  have sends := sends_of_target (computes.rests found isName) (by decide) absent picks sent
  have returns := lookups_refused computes found isName nobody sends sent (by rfl) 1 12
  exact ⟨_, mem_inquire rfl _, rfl, returns⟩

end RingCache.Cluster
