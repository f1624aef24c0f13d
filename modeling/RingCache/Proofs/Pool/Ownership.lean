import RingCache.Pool
import RingCache.Proofs.Ring.Claims

/-!
# Which peer a pool picks

Ring, clients and the test for the node itself all go by addresses in normal form.
So what a pool picks is determined by the owner of the key on the ring of the peers
(`Pool.pick?_setPeers`), and this ring is the same in all pools with one list of
peers. Such pools agree on the owner of every key, and only the owner's own pool
picks nobody.
-/

namespace RingCache

namespace Ring.Holds

variable {hash : Hash} {replicas : Nat} {names : List String} {ring : Ring}
  {key name owner : String}

/-- An owner is one of the names. -/
theorem owner_mem (holds : ring.Holds hash replicas names)
    (found : ring.owner? key = some owner) : owner ∈ names := by
  obtain ⟨_, _, front, back, split, _⟩ := (holds.owner?_eq_some_iff key).mp found
  rw [split]
  exact List.mem_append_right _ List.mem_cons_self

/-- If there are names that claim positions, every key has an owner. -/
theorem exists_owner (holds : ring.Holds hash replicas names) (claim : 0 < replicas)
    (mem : name ∈ names) (key : String) : ∃ owner, ring.owner? key = some owner := by
  cases found : ring.owner? key with
  | some owner => exact ⟨owner, rfl⟩
  | none =>
      have claimed : Claimed hash replicas names (hash (Utf8.encode (toString 0 ++ name))) :=
        ⟨name, mem, 0, claim, rfl⟩
      exact absurd claimed ((holds.owner?_eq_none_iff key).mp found _)

/-- A key has no owner exactly if no positions are claimed: by nobody, or by no names. -/
theorem owner?_eq_none (holds : ring.Holds hash replicas names) :
    ring.owner? key = none ↔ replicas = 0 ∨ names = [] := by
  constructor
  · intro missing
    by_contra filled
    rw [not_or] at filled
    obtain ⟨name, mem⟩ := List.exists_mem_of_ne_nil names filled.2
    obtain ⟨owner, found⟩ := holds.exists_owner (Nat.pos_of_ne_zero filled.1) mem key
    rw [missing] at found
    cases found
  · intro bare
    refine (holds.owner?_eq_none_iff key).mpr fun position ⟨name, mem, replica, within, _⟩ => ?_
    rcases bare with rfl | rfl
    · exact Nat.not_lt_zero replica within
    · cases mem

end Ring.Holds

namespace Pool

/-- The pool of a node that has been told its peers. -/
def among (peers : List String) (basePath : String) (replicas : Nat) (transport : Transport)
    (self : String) : Pool :=
  (create self basePath replicas transport).setPeers peers

/-- The ring on which a list of peers is placed. -/
def ringOf (replicas : Nat) (peers : List String) : Ring :=
  (Ring.empty Crc32c.checksum replicas).insertAll (addresses peers)

variable {peers : List String} {basePath self key address owner : String} {replicas : Nat}
  {transport : Transport}

theorem mem_addresses :
    address ∈ addresses peers ↔ address ≠ "" ∧ ∃ peer ∈ peers, Address.normalize peer = address := by
  simp only [addresses, List.mem_filter, List.mem_map, Bool.not_eq_true', String.isEmpty_eq_false_iff]
  exact And.comm

theorem ringOf_holds (replicas : Nat) (peers : List String) :
    (ringOf replicas peers).Holds Crc32c.checksum replicas (addresses peers) :=
  (Ring.holds_empty _ _).insertAll _

/-- Every peer has its client. -/
theorem lookup_clients (pool : Pool) (mem : address ∈ addresses peers) :
    (pool.setPeers peers).clients.lookup address = some (pool.clientOf address) := by
  have listed : (address, pool.clientOf address) ∈
      (addresses peers).map fun address => (address, pool.clientOf address) :=
    List.mem_map_of_mem mem
  obtain ⟨client, found⟩ := Option.isSome_iff_exists.mp (Ascending.latest?_isSome listed)
  obtain ⟨other, _, isPair⟩ := List.mem_map.mp (Ascending.mem_of_latest? found)
  obtain ⟨rfl, rfl⟩ := Prod.mk.inj isPair
  rw [setPeers, Ascending.ofList, Ascending.lookup_insertAll List.Pairwise.nil, found,
    Option.some_or]

/-- A pool picks the client of the owner on the ring of its peers, unless this is the
node itself. -/
theorem pick?_setPeers (pool : Pool) (peers : List String) (key : String) :
    (pool.setPeers peers).pick? key =
      ((ringOf pool.replicas peers).owner? key).bind fun owner =>
        if owner = pool.self then none else some (pool.clientOf owner) := by
  have sameRing : (pool.setPeers peers).ring = ringOf pool.replicas peers := rfl
  rw [pick?, sameRing]
  cases found : (ringOf pool.replicas peers).owner? key with
  | none => rfl
  | some owner =>
      rw [Option.bind_eq_bind, Option.bind_some, Option.bind_some,
        lookup_clients pool ((ringOf_holds pool.replicas peers).owner_mem found)]
      rfl

/-- The pool of the owner picks nobody, and every other pool with the same peers
picks the owner's client. -/
theorem pick?_among (found : (ringOf replicas peers).owner? key = some owner) :
    (among peers basePath replicas transport self).pick? key =
      if owner = Address.normalize self then none
      else some ⟨owner ++ Address.basePath basePath⟩ := by
  have sameRing : ringOf (create self basePath replicas transport).replicas peers =
      ringOf replicas peers := rfl
  rw [among, pick?_setPeers, sameRing, found, Option.bind_some]
  rfl

/-- If nodes tell their pools one list of peers, namely their own addresses, which
differ in normal form and are not empty, then for every key the pool of exactly one
node picks nobody, and the pools of all others pick the client of this node. So no
request that goes out for a key is forwarded by the node that gets it. -/
theorem one_owner_in_all_pools (nodes : List String) (basePath : String) (replicas : Nat)
    (transport : Transport) (named : ∀ node ∈ nodes, Address.normalize node ≠ "")
    (differ : (nodes.map Address.normalize).Nodup) (claim : 0 < replicas) :
    let pool := among nodes basePath replicas transport
    let clientOf (node : String) : Client :=
      ⟨Address.normalize node ++ Address.basePath basePath⟩
    (nodes ≠ [] → ∀ key, ∃ owner ∈ nodes,
      (∀ node ∈ nodes, (pool node).pick? key = none ↔ node = owner) ∧
      ∀ node ∈ nodes, node ≠ owner → (pool node).pick? key = some (clientOf owner)) ∧
    ∀ key, ∀ node ∈ nodes, ∀ next ∈ nodes,
      (pool node).pick? key = some (clientOf next) → (pool next).pick? key = none := by
  intro pool clientOf
  have sameNode : ∀ node ∈ nodes, ∀ other ∈ nodes,
      Address.normalize node = Address.normalize other → node = other := fun node mem other otherMem =>
    List.inj_on_of_nodup_map differ mem otherMem
  have owned : ∀ key, ∀ node ∈ nodes, ∃ owner ∈ nodes,
      (ringOf replicas nodes).owner? key = some (Address.normalize owner) := by
    intro key node mem
    have holds := ringOf_holds replicas nodes
    obtain ⟨address, found⟩ :=
      holds.exists_owner claim (mem_addresses.mpr ⟨named node mem, node, mem, rfl⟩) key
    obtain ⟨_, owner, ownerMem, rfl⟩ := mem_addresses.mp (holds.owner_mem found)
    exact ⟨owner, ownerMem, found⟩
  have picks : ∀ {key owner}, owner ∈ nodes →
      (ringOf replicas nodes).owner? key = some (Address.normalize owner) →
      ∀ node ∈ nodes, (pool node).pick? key = if node = owner then none else some (clientOf owner) := by
    intro key owner ownerMem found node mem
    rw [pick?_among found]
    have sameTest : Address.normalize owner = Address.normalize node ↔ node = owner :=
      ⟨fun same => sameNode node mem owner ownerMem same.symm, fun same => same ▸ rfl⟩
    simp only [sameTest]
    rfl
  constructor
  · intro filled key
    obtain ⟨node, mem⟩ := List.exists_mem_of_ne_nil nodes filled
    obtain ⟨owner, ownerMem, found⟩ := owned key node mem
    refine ⟨owner, ownerMem, fun node mem => ?_, fun node mem differs => ?_⟩
    · rw [picks ownerMem found node mem]
      by_cases same : node = owner <;> simp [same]
    · rw [picks ownerMem found node mem, if_neg differs]
  · intro key node mem next nextMem picked
    obtain ⟨owner, ownerMem, found⟩ := owned key node mem
    rw [picks ownerMem found node mem] at picked
    by_cases same : node = owner
    · rw [if_pos same] at picked
      cases picked
    · rw [if_neg same] at picked
      have sameBase := Client.mk.inj (Option.some.inj picked)
      have isNext : next = owner :=
        (sameNode owner ownerMem next nextMem (String.append_left_inj _ |>.mp sameBase)).symm
      rw [picks ownerMem found next nextMem, if_pos isNext]

/-- Two nodes, of which one spells its address with a blank and a slash, agree. -/
theorem two_pools_agree :
    let nodes := ["http://a:1", " http://b:2/"]
    let pool := among nodes "_cache" 1 .online
    ∃ owner ∈ nodes,
      (∀ node ∈ nodes, (pool node).pick? "Tom" = none ↔ node = owner) ∧
      ∀ node ∈ nodes, node ≠ owner → (pool node).pick? "Tom" =
        some ⟨Address.normalize owner ++ Address.basePath "_cache"⟩ :=
  (one_owner_in_all_pools ["http://a:1", " http://b:2/"] "_cache" 1 .online (by decide) (by decide)
    (by decide)).1 (by decide) "Tom"

end Pool

end RingCache
