import RingCache.Proofs.Node.Exchange
import RingCache.Proofs.Pool.Ownership

/-!
# What the clients of a pool ask for

A pool puts its base path behind every address, and its clients put the written group
and the written key behind that. The base path is any text between two slashes, and may
itself hold escapes, slashes or dots. None of this matters to a reader who takes the same
base path off first: what is left has its first slash between the group and the key,
because no written text has a slash in it.

So whatever a pool was made with, and however often it was told its peers, its clients ask
for paths from which `PeerPath.split` reads the group and the key again
(`Pool.clients_ask_for_what_is_read`).
-/

namespace RingCache

namespace Address

/-- A base path starts with a slash. -/
theorem basePath_rooted (path : String) : ∃ rest, basePath path = "/" ++ rest := by
  unfold basePath
  cases Blank.trimBoth isSlash path.toList with
  | nil => exact ⟨"", rfl⟩
  | cons first rest =>
      refine ⟨String.ofList (first :: rest ++ ['/']), String.toList_inj.mp ?_⟩
      simp

end Address

namespace Pool

open PeerPath (split_asked)

variable {peers : List String} {address group key : String}

/-- A pool that is told its peers again and again. -/
def told (pool : Pool) (lists : List (List String)) : Pool :=
  lists.foldl setPeers pool

theorem basePath_told (pool : Pool) (lists : List (List String)) :
    (pool.told lists).basePath = pool.basePath := by
  induction lists generalizing pool with
  | nil => rfl
  | cons peers rest inductionHypothesis => exact inductionHypothesis (pool.setPeers peers)

/-- A text that is no peer's address has no client. -/
theorem lookup_clients_eq_none (pool : Pool) (foreign : address ∉ addresses peers) :
    (pool.setPeers peers).clients.lookup address = none := by
  have absent : ∀ pair ∈ (addresses peers).map fun address => (address, pool.clientOf address),
      pair.1 ≠ address := by
    intro pair listed same
    obtain ⟨listedAddress, mem, rfl⟩ := List.mem_map.mp listed
    exact foreign (same ▸ mem)
  rw [setPeers, Ascending.ofList, Ascending.lookup_insertAll List.Pairwise.nil,
    Ascending.latest?_eq_none absent]
  rfl

/-- What a client asks for is what stands behind its address, written under the base path. -/
theorem url_clientOf (pool : Pool) (address group key : String) :
    (pool.clientOf address).url group key =
      address ++ (pool.basePath ++ Percent.encode group ++ "/" ++ Percent.encode key) := by
  simp only [Client.url, clientOf, String.append_assoc]

/-- Whatever base path a pool was made with, and whatever peers it was told, every peer has a
client unless nothing is left of its address, and the URLs of this client are the peer's
address in normal form and behind it a path. From this path the group and the key are read
again with the pool's own base path, whatever texts they are. -/
theorem clients_ask_for_what_is_read (self basePath : String) (replicas : Nat)
    (transport : Transport) (earlier : List (List String)) (peers : List String)
    {group key : String} (groupNamed : group ≠ "") (keyNamed : key ≠ "") :
    let pool := ((create self basePath replicas transport).told earlier).setPeers peers
    let path := pool.basePath ++ Percent.encode group ++ "/" ++ Percent.encode key
    pool.basePath = Address.basePath basePath ∧
    (∀ peer ∈ peers,
      if Address.normalize peer = "" then pool.clients.lookup (Address.normalize peer) = none
      else ∃ client, pool.clients.lookup (Address.normalize peer) = some client ∧
        client.url group key = Address.normalize peer ++ path) ∧
    (∃ rest, path = "/" ++ rest) ∧ PeerPath.split pool.basePath path = .ok (group, key) := by
  intro pool path
  have samePath : pool.basePath = Address.basePath basePath :=
    basePath_told (create self basePath replicas transport) earlier
  refine ⟨samePath, fun peer mem => ?_, ?_, split_asked pool.basePath groupNamed keyNamed⟩
  · split
    · rename_i nothing
      exact lookup_clients_eq_none _ fun listed => (mem_addresses.mp listed).1 nothing
    · rename_i named
      refine ⟨pool.clientOf (Address.normalize peer), ?_, url_clientOf pool _ group key⟩
      exact lookup_clients _ (mem_addresses.mpr ⟨named, peer, mem, rfl⟩)
  · obtain ⟨rest, rooted⟩ := Address.basePath_rooted basePath
    refine ⟨rest ++ Percent.encode group ++ "/" ++ Percent.encode key, ?_⟩
    simp only [path, samePath, rooted, String.append_assoc]

/-- A base path that looks like a query, and a key of slashes, dots and escapes. -/
theorem odd_paths_are_read :
    let pool := ((create "http://a:1" "x%2F?/" 1 .online).told [["http://c:3"]]).setPeers
      [" http://b:2//", "//"]
    let path := pool.basePath ++ Percent.encode "my group" ++ "/" ++ Percent.encode "../a%2Fb?\n"
    ("my group" ≠ "" ∧ "../a%2Fb?\n" ≠ "") ∧ pool.basePath = Address.basePath "x%2F?/" ∧
    (∀ peer ∈ [" http://b:2//", "//"],
      if Address.normalize peer = "" then pool.clients.lookup (Address.normalize peer) = none
      else ∃ client, pool.clients.lookup (Address.normalize peer) = some client ∧
        client.url "my group" "../a%2Fb?\n" = Address.normalize peer ++ path) ∧
    (∃ rest, path = "/" ++ rest) ∧
    PeerPath.split pool.basePath path = .ok ("my group", "../a%2Fb?\n") :=
  ⟨⟨by decide, by decide⟩, clients_ask_for_what_is_read "http://a:1" "x%2F?/" 1 .online
    [["http://c:3"]] [" http://b:2//", "//"] (by decide) (by decide)⟩

end Pool

end RingCache
