import RingCache.Proofs.Pool.Paths

/-!
# What a pool knows of its peers

Ring and clients of a pool are two tables made of one list. Being told its peers replaces both, so
that the last list alone decides (`Pool.told_create`). Both tables go by the addresses of this list
in normal form: the clients have them as their keys, each once, and the ring has no other owners. So
a client is there for every owner, and the pool picks nobody only if there is no owner, or if the
owner is the node itself (`Pool.last_peers_decide`).
-/

namespace RingCache

namespace Pool

variable {pool : Pool} {peers : List String} {address : String}

/-! ## Peers that are replaced -/

/-- A pool that has been told its peers again and again is, once it is told others, as if it had
been told these alone. -/
theorem setPeers_told (pool : Pool) (lists : List (List String)) (peers : List String) :
    (pool.told lists).setPeers peers = pool.setPeers peers := by
  induction lists generalizing pool with
  | nil => rfl
  | cons first rest inductionHypothesis => exact inductionHypothesis (pool.setPeers first)

/-- A new pool is as if it had been told that there are no peers. -/
theorem setPeers_nil (self basePath : String) (replicas : Nat) (transport : Transport) :
    (create self basePath replicas transport).setPeers [] =
      create self basePath replicas transport := by
  have nobody : addresses [] = [] := rfl
  rw [setPeers, nobody, Ring.insertAll_nil, List.map_nil, Ascending.ofList,
    Ascending.insertAll, List.mergeSort_nil, List.nil_merge]
  rfl

/-- The last list that a pool was told decides, or the lack of one. -/
theorem told_create (self basePath : String) (replicas : Nat) (transport : Transport)
    (lists : List (List String)) :
    (create self basePath replicas transport).told lists =
      among (lists.getLast?.getD []) basePath replicas transport self := by
  induction lists using List.reverseRecOn with
  | nil => exact (setPeers_nil self basePath replicas transport).symm
  | append_singleton earlier peers _ =>
      rw [told, List.foldl_concat, List.getLast?_concat]
      exact setPeers_told _ earlier peers

/-! ## Ring and clients -/

/-- The peers that a pool lists are those it was told, each once, in order. -/
theorem peers_setPeers (pool : Pool) (peers : List String) :
    (pool.setPeers peers).peers.Pairwise (· < ·) ∧
      ∀ address, address ∈ (pool.setPeers peers).peers ↔ address ∈ addresses peers := by
  refine ⟨Ascending.keys_ofList_ascend _, fun address => ?_⟩
  rw [Pool.peers, setPeers, Ascending.mem_keys_ofList, List.map_map]
  exact List.mem_map.trans (by simp)

/-- A pool knows of its peers what the last list says that it was told, and nothing is left of the
lists before. The peers that it lists are the addresses in this list in normal form, without those
of which nothing is left, each once and in ascending order. Every owner on its ring has a client,
whose base is the owner with the base path of the pool. It picks nobody for a key exactly if peers
claim no positions, if there are no peers, or if the key belongs to the node itself on a fresh ring
of these addresses; and otherwise the client of the owner. -/
theorem last_peers_decide (self basePath : String) (replicas : Nat) (transport : Transport)
    (lists : List (List String)) :
    let pool := (create self basePath replicas transport).told lists
    let names := addresses (lists.getLast?.getD [])
    let fresh := (Ring.empty Crc32c.checksum replicas).insertAll names
    let clientOf (owner : String) : Client := ⟨owner ++ Address.basePath basePath⟩
    (pool.peers.Pairwise (· < ·) ∧ ∀ address, address ∈ pool.peers ↔ address ∈ names) ∧
    (∀ key owner, pool.ring.owner? key = some owner →
      pool.clients.lookup owner = some (clientOf owner)) ∧
    (∀ key, pool.pick? key = none ↔
      replicas = 0 ∨ names = [] ∨ fresh.owner? key = some (Address.normalize self)) ∧
    (∀ key client, pool.pick? key = some client ↔ ∃ owner, fresh.owner? key = some owner ∧
      owner ≠ Address.normalize self ∧ client = clientOf owner) ∧
    ∀ others : List (List String), others.getLast? = lists.getLast? →
      (create self basePath replicas transport).told others = pool := by
  intro pool names fresh clientOf
  have isAmong : pool = among (lists.getLast?.getD []) basePath replicas transport self :=
    told_create self basePath replicas transport lists
  have holds : fresh.Holds Crc32c.checksum replicas names := (Ring.holds_empty _ _).insertAll names
  have picks : ∀ key, pool.pick? key = (fresh.owner? key).bind fun owner =>
      if owner = Address.normalize self then none else some (clientOf owner) := by
    intro key
    rw [isAmong]
    exact pick?_setPeers _ _ key
  refine ⟨?_, fun key owner found => ?_, fun key => ?_, fun key client => ?_, fun others same => ?_⟩
  · rw [isAmong]
    exact peers_setPeers _ _
  · rw [isAmong] at found ⊢
    exact lookup_clients _ ((ringOf_holds replicas _).owner_mem found)
  · have noOwner : fresh.owner? key = none ↔ replicas = 0 ∨ names = [] := holds.owner?_eq_none
    rw [picks, ← or_assoc, ← noOwner]
    cases fresh.owner? key with
    | none => simp
    | some owner => simp
  · rw [picks, Option.bind_eq_some_iff]
    refine exists_congr fun owner => and_congr_right fun _ => ?_
    by_cases isSelf : owner = Address.normalize self
    · simp [isSelf]
    · simp [isSelf, eq_comm]
  · rw [isAmong, told_create, same]

end Pool

end RingCache
