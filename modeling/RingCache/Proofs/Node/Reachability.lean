import RingCache.Proofs.Node.Answers
import RingCache.Proofs.Pool.Paths

/-!
# Reaching the endpoint for peers

The endpoint for peers has no route of its own: it takes the paths that no other route
takes. Its paths are the base path of the pool, a written group, a slash and a written
key, so they have two segments at least, while the routes to what a node reports of itself
have one. Only the route of values can take such a path, and it does so under one base
path, whose only segment is that route's first (`Http.Route.ofPath_under`).

`Pool.peers_reach_endpoint` says so of all nodes with a pool: under every other base path a
peer's request is a lookup that is answered with an envelope, and under this one the lookup
is the same and the answer has the bare octets of the value.
-/

namespace RingCache

open Http

variable {group key : String}

/-! ## Base paths -/

namespace Address

/-- The base path under which the route of values lies. -/
def valuePath : String := "/api/"

/-- A base path ends in a slash. -/
theorem exists_front (path : String) :
    ∃ front, basePath path = String.ofList (front ++ ['/']) := by
  unfold basePath
  cases Blank.trimBoth isSlash path.toList with
  | nil => exact ⟨[], rfl⟩
  | cons first rest => exact ⟨'/' :: first :: rest, rfl⟩

theorem mem_of_mem_trimBoth {drops : Char → Bool} {characters : List Char} {character : Char}
    (mem : character ∈ Blank.trimBoth drops characters) : character ∈ characters := by
  rw [Blank.trimBoth, Blank.trimRight, List.mem_reverse] at mem
  have inner := (List.dropWhile_sublist drops).subset mem
  rw [List.mem_reverse] at inner
  exact (List.dropWhile_sublist drops).subset inner

/-- A base path has no characters but slashes and those it was made of. -/
theorem mem_basePath {path : String} {character : Char}
    (mem : character ∈ (basePath path).toList) : character = '/' ∨ character ∈ path.toList := by
  unfold basePath at mem
  cases trimmed : Blank.trimBoth isSlash path.toList with
  | nil =>
      rw [trimmed] at mem
      exact .inl (by simpa using mem)
  | cons first rest =>
      rw [trimmed] at mem
      have inside (other : Char) (listed : other ∈ first :: rest) : other ∈ path.toList :=
        mem_of_mem_trimBoth (trimmed ▸ listed)
      simp only [String.toList_ofList, List.cons_append, List.mem_cons, List.mem_append,
        List.not_mem_nil, or_false] at mem
      obtain isSlash | isFirst | inRest | isSlash := mem
      · exact .inl isSlash
      · exact .inr (inside character (by simp [isFirst]))
      · exact .inr (inside character (by simp [inRest]))
      · exact .inl isSlash

end Address

/-! ## Routes under a base path -/

namespace Http.Route

/-- A slash parts the segments before it from those behind it. -/
theorem segments_append (front back : List Char) :
    segments (String.ofList (front ++ '/' :: back)) =
      segments (String.ofList front) ++ segments (String.ofList back) := by
  have parted : (front ++ '/' :: back).splitOnP (· == '/') =
      front.splitOnP (· == '/') ++ back.splitOnP (· == '/') :=
    List.splitOnP_append_cons front back rfl
  simp only [segments, String.toList_ofList, List.splitOn, parted, List.map_append]

/-- A text without a slash is one segment. -/
theorem segments_alone {text : String} (noSlash : '/' ∉ text.toList) : segments text = [text] := by
  have alone : ∀ segment ∈ [text.toList], '/' ∉ segment := by
    simpa using noSlash
  have whole := List.splitOn_intercalate '/' alone (List.cons_ne_nil _ _)
  rw [List.intercalate_singleton] at whole
  simp [segments, whole]

/-- A written text is one segment. -/
theorem segments_encode (text : String) :
    segments (Percent.encode text) = [Percent.encode text] :=
  segments_alone fun mem =>
    (Path.plain_of_isWritten (Path.isWritten_encode text '/' mem)).1.1 rfl

/-- Texts with the segments of a text are this text. -/
theorem eq_of_segments {left right : String} (same : segments left = segments right) :
    left = right := by
  have split : left.toList.splitOn '/' = right.toList.splitOn '/' := by
    simpa [segments] using congrArg (List.map String.toList) same
  have joined := congrArg (['/'].intercalate) split
  rw [List.intercalate_splitOn, List.intercalate_splitOn] at joined
  exact String.toList_inj.mp joined

/-- The segments of a path of a group and a key: those before the last slash of the base
path, and the two that are written. -/
theorem segments_under (front : List Char) (group key : String) :
    segments (String.ofList (front ++ ['/']) ++ Percent.encode group ++ "/" ++ Percent.encode key) =
      segments (String.ofList front) ++ [Percent.encode group, Percent.encode key] := by
  have laidOut : String.ofList (front ++ ['/']) ++ Percent.encode group ++ "/" ++
      Percent.encode key = String.ofList
        (front ++ '/' :: ((Percent.encode group).toList ++ '/' :: (Percent.encode key).toList)) := by
    refine String.toList_inj.mp ?_
    simp
  rw [laidOut, segments_append, segments_append, String.ofList_toList, String.ofList_toList,
    segments_encode, segments_encode]
  rfl

/-- Among paths of three and more segments, only those of four that start as the route of
values does lead there. -/
theorem ofPath_of_pair {path first second : String} {front : List String}
    (split : segments path = front ++ [first, second]) (filled : front ≠ [])
    (named : second ≠ "") :
    ofPath path = if front = ["", "api"] then .value first second else .exchange := by
  rw [ofPath, split]
  rcases front with _ | ⟨one, _ | ⟨other, _ | ⟨third, rest⟩⟩⟩
  · exact absurd rfl filled
  · split
    all_goals simp_all
  · by_cases isValue : one = "" ∧ other = "api"
    · obtain ⟨rfl, rfl⟩ := isValue
      simp [named]
    · split
      all_goals simp_all
  · split
    case h_4 same =>
      have length := congrArg List.length same
      simp at length
    all_goals simp_all

/-- The path of a group and a key leads to the endpoint for peers, except under the base path
of the route of values. -/
theorem ofPath_under (basePath group : String) (keyNamed : key ≠ "") :
    ofPath (Address.basePath basePath ++ Percent.encode group ++ "/" ++ Percent.encode key) =
      if Address.basePath basePath = Address.valuePath then
        .value (Percent.encode group) (Percent.encode key)
      else .exchange := by
  obtain ⟨front, isFront⟩ := Address.exists_front basePath
  have filled : segments (String.ofList front) ≠ [] := by
    simp [segments, List.splitOn, List.splitOnP_ne_nil]
  have isValuePath : Address.basePath basePath = Address.valuePath ↔
      segments (String.ofList front) = ["", "api"] := by
    have spelled : segments "/api" = ["", "api"] := by decide
    rw [isFront, ← spelled]
    constructor
    · intro same
      have isApi : front = "/api".toList := by
        have joined := congrArg String.toList same
        simp only [String.toList_ofList] at joined
        exact List.append_cancel_right (joined.trans (by rfl : _ = "/api".toList ++ ['/']))
      rw [isApi, String.ofList_toList]
    · intro same
      rw [← String.toList_inj, String.toList_ofList]
      have isApi := congrArg String.toList (eq_of_segments same)
      rw [String.toList_ofList] at isApi
      rw [isApi]
      rfl
  have keyWritten : Percent.encode key ≠ "" := mt Percent.encode_eq_empty.mp keyNamed
  simp only [isValuePath]
  rw [isFront]
  exact ofPath_of_pair (segments_under front group key) filled keyWritten

end Http.Route

/-! ## Answers to peers -/

namespace Http.Response

/-- A value is sent in an envelope that opens as this value. -/
theorem ofResult_sealed (value : Octets) :
    (ofResult true (.ok value)).status = 200 ∧
      ∃ envelope, Envelope.read (ofResult true (.ok value)).body = .ok envelope ∧
        envelope.contents = .ok value := by
  have isJson : ofResult true (.ok value) = json 200 (Envelope.ofOctets value).toJson := by
    simp [ofResult]
  rw [isJson, body_json, Envelope.read_toJson]
  exact ⟨rfl, Envelope.ofOctets value, rfl, Envelope.contents_ofOctets value⟩

end Http.Response

/-! ## Requests of peers -/

namespace Pool

/-- A path under a base path is the path of a request for it, as far as the base path has no
character that ends a path. -/
theorem path_under {basePath : String} (plain : ∀ c ∈ basePath.toList, c ≠ '?' ∧ c ≠ '#')
    (group key : String) :
    let path := Address.basePath basePath ++ Percent.encode group ++ "/" ++ Percent.encode key
    (Request.get path).path = path := by
  intro path
  obtain ⟨rest, rooted⟩ := Address.basePath_rooted basePath
  let characters := rest.toList ++ (Percent.encode group).toList ++
    '/' :: (Percent.encode key).toList
  have laidOut : path = String.ofList ('/' :: characters) := by
    refine String.toList_inj.mp ?_
    simp [path, rooted, characters]
  rw [laidOut]
  apply Http.Request.path_plain
  intro c mem
  obtain inBase | inGroup | isSlash | inKey :
      c ∈ rest.toList ∨ c ∈ (Percent.encode group).toList ∨ c = '/' ∨
        c ∈ (Percent.encode key).toList := by
    simpa [characters] using mem
  · have inBasePath : c ∈ (Address.basePath basePath).toList := by simp [rooted, inBase]
    obtain rfl | inside := Address.mem_basePath inBasePath
    · decide
    · exact plain c inside
  · exact Percent.plain_of_isWritten (Percent.isWritten_of_mem inGroup)
  · rw [isSlash]
    decide
  · exact Percent.plain_of_isWritten (Percent.isWritten_of_mem inKey)

/-- A `GET` of a path under the base path of a node is a lookup of the group and the key in it,
whichever route it takes. -/
theorem decide_under {node : Node} {basePath : String} {number : Nat}
    (follows : node.basePath = Address.basePath basePath)
    (plain : ∀ c ∈ basePath.toList, c ≠ '?' ∧ c ≠ '#')
    (registered : node.registry.number? group = some number) (groupNamed : group ≠ "")
    (keyNamed : key ≠ "") (time : String) :
    node.decide time (.get (node.basePath ++ Percent.encode group ++ "/" ++ Percent.encode key)) =
      .lookup number key fun result =>
        (Response.ofResult (node.basePath != Address.valuePath) result).anyOrigin := by
  have isPath := path_under plain group key
  have leads := Route.ofPath_under basePath group keyNamed
  have read := PeerPath.split_asked (Address.basePath basePath) groupNamed keyNamed
  rw [follows]
  generalize Address.basePath basePath ++ Percent.encode group ++ "/" ++ Percent.encode key = path
    at isPath leads read ⊢
  have found (sealed : Bool) : node.look sealed group key =
      .lookup number key (Response.ofResult sealed) := by
    rw [Node.look, registered]
  rw [← isPath] at leads
  by_cases isValuePath : Address.basePath basePath = Address.valuePath
  · rw [if_pos isValuePath] at leads
    rw [node.decide_get time leads (by rfl), Node.decideRoute, Node.decideValue,
      Percent.decode_encode, Percent.decode_encode]
    simp [found, isValuePath, Decision.mapResponse]
  · rw [if_neg isValuePath] at leads
    rw [← follows] at read
    have isSealed : (Address.basePath basePath != Address.valuePath) = true := by
      simpa using isValuePath
    rw [node.decide_get time leads (by rfl), Node.decideRoute, isPath,
      Node.decideExchange_of_split read, found, isSealed]
    rfl

/-- A node with a pool, whatever base path the pool was made with and whatever peers it was
told, takes a request for a group's key for a lookup in that group. Under all base paths but
one the endpoint for peers answers it: a value with an envelope that holds it, and a failure
as the failure that it is. Under that one, the path is the one of the route of values, which
answers with the octets of the value where a peer expects an envelope. -/
theorem peers_reach_endpoint (self basePath : String) (replicas : Nat) (transport : Transport)
    (lists : List (List String)) (registry : Registry) {group key : String} {number : Nat}
    (plain : ∀ c ∈ basePath.toList, c ≠ '?' ∧ c ≠ '#')
    (registered : registry.number? group = some number) (groupNamed : group ≠ "")
    (keyNamed : key ≠ "") (time : String) :
    let pool := (create self basePath replicas transport).told lists
    let node : Node := { registry, pool := some pool, basePath := pool.basePath }
    let path := pool.basePath ++ Percent.encode group ++ "/" ++ Percent.encode key
    let answer := fun result =>
      (Response.ofResult (pool.basePath != Address.valuePath) result).anyOrigin
    pool.basePath = Address.basePath basePath ∧
    node.decide time (.get path) = .lookup number key answer ∧
    (∀ cluster : Cluster, ∀ index, cluster.node? index = some node →
      let looked := cluster.lookups cluster.hops index number key 1
      cluster.serve index time (.get path) = (looked.1, looked.2.1, looked.2.2.head?.map answer)) ∧
    (∀ cause, answer (.error cause) = (Response.failure cause).anyOrigin) ∧
    (pool.basePath ≠ Address.valuePath →
      Route.ofPath path = .exchange ∧
      ∀ value, (answer (.ok value)).status = 200 ∧
        ∃ envelope, Envelope.read (answer (.ok value)).body = .ok envelope ∧
          envelope.contents = .ok value) ∧
    (pool.basePath = Address.valuePath →
      Route.ofPath path = .value (Percent.encode group) (Percent.encode key) ∧
      ∀ value, answer (.ok value) = (Response.octets value).anyOrigin) := by
  intro pool node path answer
  have samePath : pool.basePath = Address.basePath basePath :=
    basePath_told (create self basePath replicas transport) lists
  have decided : node.decide time (.get path) = .lookup number key answer :=
    decide_under samePath plain registered groupNamed keyNamed time
  have leads : Route.ofPath path = if pool.basePath = Address.valuePath then
      .value (Percent.encode group) (Percent.encode key) else .exchange := by
    have under := Route.ofPath_under basePath group keyNamed
    rwa [← samePath] at under
  refine ⟨samePath, decided, fun cluster index present => ?_, fun cause => rfl, fun other => ?_,
    fun isValuePath => ?_⟩
  · intro looked
    simp only [Cluster.serve, present, decided]
    rfl
  · have isSealed : (pool.basePath != Address.valuePath) = true := by simpa using other
    refine ⟨by rw [leads, if_neg other], fun value => ?_⟩
    simpa [answer, isSealed] using Response.ofResult_sealed value
  · refine ⟨by rw [leads, if_pos isValuePath], fun value => ?_⟩
    simp [answer, Response.ofResult, isValuePath]

/-- A base path that only begins as the route of values does. -/
theorem nested_base_path_is_reached :
    let registry := Registry.create {} "my group" 9 (.ofFunction fun key => .ok (Utf8.encode key))
    let pool := (create "http://a:1" "api/v1" 1 .online).told [["http://b:2"]]
    let node : Node := { registry, pool := some pool, basePath := pool.basePath }
    let path := pool.basePath ++ Percent.encode "my group" ++ "/" ++ Percent.encode "a/b?"
    (∀ c ∈ "api/v1".toList, c ≠ '?' ∧ c ≠ '#') ∧ registry.number? "my group" = some 0 ∧
      "my group" ≠ "" ∧ "a/b?" ≠ "" ∧ pool.basePath ≠ Address.valuePath ∧
      Route.ofPath path = .exchange ∧
      node.decide "" (.get path) = .lookup 0 "a/b?" fun result =>
        (Response.ofResult (pool.basePath != Address.valuePath) result).anyOrigin := by
  intro registry pool node path
  have plain : ∀ c ∈ "api/v1".toList, c ≠ '?' ∧ c ≠ '#' := by simp
  have registered : registry.number? "my group" = some 0 := by decide +kernel
  obtain ⟨isBasePath, decided, _, _, reached, _⟩ := peers_reach_endpoint "http://a:1" "api/v1" 1
    .online [["http://b:2"]] registry plain registered (by decide) (by decide : "a/b?" ≠ "") ""
  have other : pool.basePath ≠ Address.valuePath := by
    rw [isBasePath]
    decide +kernel
  exact ⟨plain, registered, by decide, by decide, other, (reached other).1, decided⟩

end Pool

end RingCache
