import RingCache.Cluster
import RingCache.Proofs.Node.PeerPaths
import RingCache.Proofs.Report
import RingCache.Proofs.Url.Paths

/-!
# What a node makes of a peer's request

A client asks for the path of three segments: the base, the group and the key, both
written. A URL has its dot segments resolved before it is sent, so that what comes to
the node is another path if the group or the key is a dot segment, and names nothing
if one of them is empty. Every other group and key arrives as it was asked for, and
the node looks it up (`Node.decide_of_stands`).

A node that is asked for something else by mistake never gives octets: all that it has
on such paths is its counters and its health, and these are no envelopes. So a client
takes what it gets for a failure (`Http.Response.Refused`).
-/

namespace RingCache

open Http

/-! ## Requests that are sent -/

namespace Transport

variable {raw : String} {url other : Url}

theorem permit_eq_ok_iff : permit raw url = .ok other ↔
    url = other ∧ url.scheme = "http" ∧ url.host.isSome = true ∧ url.isSendable = true := by
  rw [permit]
  constructor
  · intro admitted
    split at admitted
    · cases admitted
    · rename_i supported
      split at admitted
      · cases admitted
      · rename_i unencrypted
        simp only [Url.isHttp, Bool.or_eq_true, Bool.not_eq_true', not_or, Bool.not_eq_false,
          Bool.and_eq_true, beq_iff_eq, unencrypted, or_false] at supported
        exact ⟨Except.ok.inj admitted, supported.1.1, supported.1.2, supported.2⟩
  · rintro ⟨rfl, unencrypted, hosted, sendable⟩
    simp [Url.isHttp, unencrypted, hosted, sendable]

/-- Whether a text gives a URL, the user left out, that is asked over an open connection. -/
structure Reaches (raw : String) (url : Url) : Prop where
  /-- The text is an absolute URL. -/
  parsed : (Url.parse? raw).map Url.withoutUser = some url
  /-- Connections are not encrypted. -/
  unencrypted : url.scheme = "http"
  /-- There is a host. -/
  hosted : url.host.isSome = true
  /-- The URL can stand in a request. -/
  sendable : url.isSendable = true

theorem target_eq_ok_iff : target raw = .ok url ↔ Reaches raw url := by
  rw [target]
  constructor
  · intro sent
    cases parsed : (Url.parse? raw).map Url.withoutUser with
    | none =>
        rw [parsed] at sent
        cases sent
    | some found =>
        rw [parsed] at sent
        obtain ⟨rfl, unencrypted, hosted, sendable⟩ := permit_eq_ok_iff.mp sent
        exact ⟨parsed, unencrypted, hosted, sendable⟩
  · rintro ⟨parsed, unencrypted, hosted, sendable⟩
    rw [parsed]
    exact permit_eq_ok_iff.mpr ⟨rfl, unencrypted, hosted, sendable⟩

end Transport

/-! ## Responses to clients -/

/-- Whether a client gets no octets from a response. -/
def Http.Response.Refused (response : Response) : Prop :=
  ∀ raw url, ∃ cause, Client.receive raw url (Cluster.delivered response) = .error cause

namespace Client

variable {raw : String} {url : Url} {status : Nat} {body : Octets}

/-- What a client gets from a complete answer. -/
theorem receive_whole (succeeds : isSuccess status = true) (filled : status ≠ 204) :
    receive raw url (.answered status body false) =
      match Envelope.read body with
      | .error _ => .error Fault.body.failure
      | .ok envelope => envelope.contents := by
  rewrite [receive, if_neg (by simp [succeeds]), if_neg (by decide), if_neg filled]
  rfl

theorem receive_failed (failed : isSuccess status = false) (cut : Bool)
    (location : Option String) :
    ∃ cause, receive raw url (.answered status body cut location) = .error cause := by
  rw [receive, if_pos (by simp [failed])]
  exact ⟨_, rfl⟩

end Client

namespace Http.Response

/-- What comes to a client of a JSON value. -/
theorem delivered_json (status : Nat) (value : Json.Value) :
    Cluster.delivered (json status value).anyOrigin =
      .answered status (Utf8.encode value.render) false :=
  rfl

theorem refused_json {value : Json.Value}
    (unread : ∃ flaw, Envelope.read (Utf8.encode value.render) = .error flaw) :
    (json 200 value).anyOrigin.Refused := by
  intro raw url
  obtain ⟨flaw, unread⟩ := unread
  rw [delivered_json, Client.receive_whole (by rfl) (by decide), unread]
  exact ⟨_, rfl⟩

/-- No failure has a status of success. -/
theorem refused_failure (cause : Failure) : (failure cause).anyOrigin.Refused := by
  intro raw url
  rw [failure, delivered_json]
  exact Client.receive_failed (by cases cause <;> rfl) false none

/-- A value comes out of its response as it was. -/
theorem receive_value (raw : String) (url : Url) (value : Octets) :
    Client.receive raw url (Cluster.delivered (ofResult true (.ok value)).anyOrigin) =
      .ok value := by
  rw [ofResult, if_pos rfl, delivered_json, Client.receive_whole (by rfl) (by decide),
    Envelope.read_toJson]
  exact Envelope.contents_ofOctets value

end Http.Response

/-! ## Paths that are asked for -/

namespace PeerPath

open RingCache.Path

/-- The segment under which all nodes answer their peers. -/
def baseSegment : List Char := ['_', 'c', 'a', 'c', 'h', 'e']

/-- Whether a text stands in a path as it was written: it is not empty, and it is no dot
segment. -/
def Stands (text : String) : Prop :=
  text ≠ "" ∧ text ≠ "." ∧ text ≠ ".."

instance (text : String) : Decidable (Stands text) :=
  inferInstanceAs (Decidable (_ ∧ _))

/-- The path that comes to a node that is asked for a group's key. -/
def asked (group key : String) : String :=
  text (resolve false [baseSegment, (Percent.encode group).toList, (Percent.encode key).toList])

variable {group key : String} {segment : List Char} {rest : List (List Char)}

theorem isWritten_nil : IsWritten [] := fun _ mem => nomatch mem

theorem isWritten_baseSegment : IsWritten baseSegment := by
  have all : baseSegment.all Percent.isWritten := by decide
  exact List.all_eq_true.mp all

/-- Segments that name no group and key: there are too few of them, or one of the two is
empty. -/
inductive Lacking : List (List Char) → Prop where
  | empty (first second : List Char) (written : IsWritten first) (secondWritten : IsWritten second)
      (empty : first = [] ∨ second = []) : Lacking [baseSegment, first, second]
  | short (segment : List Char) (written : IsWritten segment) : Lacking [baseSegment, segment]
  | single (segment : List Char) (written : IsWritten segment) : Lacking [segment]

theorem Lacking.written {segments : List (List Char)} (lacking : Lacking segments) :
    ∀ segment ∈ segments, IsWritten segment := by
  have isBase := isWritten_baseSegment
  cases lacking with
  | empty first second written secondWritten empty =>
      simpa using ⟨isBase, written, secondWritten⟩
  | short segment written => simpa using ⟨isBase, written⟩
  | single segment written => simpa using written

theorem encode_eq_nil_iff {text : String} : (Percent.encode text).toList = [] ↔ text = "" := by
  rw [String.toList_eq_nil_iff, Percent.encode_eq_empty]

theorem asked_eq (group key : String) :
    asked group key =
      text (resolved baseSegment (Percent.encode group).toList (Percent.encode key).toList) := by
  rw [asked, resolve_three (by decide) (by decide) (by decide)
    (startsWithDrive_written (isWritten_encode group))]

/-- Texts that stand in a path arrive in it. -/
theorem asked_of_stands (groupStands : Stands group) (keyStands : Stands key) :
    asked group key = String.ofList (joined
      [baseSegment, (Percent.encode group).toList, (Percent.encode key).toList]) := by
  have noDot : ∀ {text}, Stands text → isDot (Percent.encode text).toList = false ∧
      isDoubleDot (Percent.encode text).toList = false := by
    intro text stands
    constructor
    · exact Bool.eq_false_iff.mpr (mt (isDot_encode text).mp stands.2.1)
    · exact Bool.eq_false_iff.mpr (mt (isDoubleDot_encode text).mp stands.2.2)
  rw [asked_eq, resolved]
  simp only [noDot groupStands, noDot keyStands, Bool.false_eq_true, if_false]
  refine text_written ?_
  simpa using ⟨isWritten_baseSegment, isWritten_encode group, isWritten_encode key⟩

/-- Otherwise what arrives names no group and key. -/
theorem asked_of_falls (falls : ¬ (Stands group ∧ Stands key)) :
    ∃ segments, Lacking segments ∧ asked group key = String.ofList (joined segments) := by
  have groupWritten := isWritten_encode group
  have keyWritten := isWritten_encode key
  have lacking : Lacking
      (resolved baseSegment (Percent.encode group).toList (Percent.encode key).toList) := by
    rw [resolved]
    split
    · split
      · exact .single [] isWritten_nil
      · exact .single _ keyWritten
    · split
      · split
        · exact .single [] isWritten_nil
        · split
          · exact .short [] isWritten_nil
          · exact .short _ keyWritten
      · split
        · exact .short [] isWritten_nil
        · split
          · exact .empty _ [] groupWritten isWritten_nil (.inr rfl)
          · rename_i groupNoDouble groupNoDot keyNoDouble keyNoDot
            rw [isDoubleDot_encode] at groupNoDouble keyNoDouble
            rw [isDot_encode] at groupNoDot keyNoDot
            refine .empty _ _ groupWritten keyWritten ?_
            rw [encode_eq_nil_iff, encode_eq_nil_iff]
            by_contra filled
            rw [not_or] at filled
            exact falls ⟨⟨filled.1, groupNoDot, groupNoDouble⟩, ⟨filled.2, keyNoDot, keyNoDouble⟩⟩
  exact ⟨_, lacking, by rw [asked_eq, text_written lacking.written]⟩

-- A key of two dots takes the name of the group away with it.
example : asked "scores" ".." = "/_cache/" := by decide +kernel

/-! ## Asking for such paths -/

/-- The client of a peer that is a plain origin. -/
def clientOf (origin : String) : Client :=
  ⟨origin ++ Address.defaultBasePath⟩

/-- What a client asks for. -/
theorem url_clientOf (origin group key : String) :
    (clientOf origin).url group key = String.ofList (origin.toList ++ joined
      [baseSegment, (Percent.encode group).toList, (Percent.encode key).toList]) := by
  refine String.toList_inj.mp ?_
  simp [Client.url, clientOf, joined, baseSegment, Address.defaultBasePath]

/-- A URL without the user leads to the same place. -/
theorem withoutUser_frame (url : Url) :
    url.withoutUser.path = url.path ∧ url.withoutUser.authority = url.authority := by
  rw [Url.withoutUser]
  split <;> exact ⟨rfl, rfl⟩

/-- The URL of a request that is sent is the one that the text stands for. -/
theorem parse?_of_target {raw : String} {url : Url} (sent : Transport.target raw = .ok url) :
    ∃ parsed, Url.parse? raw = some parsed ∧ url.path = parsed.path ∧
      url.authority = parsed.authority := by
  obtain ⟨parsed, found, rfl⟩ :=
    Option.map_eq_some_iff.mp (Transport.target_eq_ok_iff.mp sent).parsed
  exact ⟨parsed, found, withoutUser_frame parsed⟩

theorem isSendable_eq (url : Url) : url.isSendable =
    (url.text.length ≤ Url.longestSent &&
      !(url.host.getD "").toList.any
        fun character => ['"', '\x60', '\x7b', '\x7d'].contains character) := by
  rw [Url.isSendable, String.any, String.contains_bool_eq]

/-- A URL that names no user and can be sent is the one of the request. -/
theorem target_of_parse? {raw : String} {url : Url} (parsed : Url.parse? raw = some url)
    (anonymous : url.withoutUser = url) (unencrypted : url.scheme = "http")
    (hosted : url.host.isSome = true) (sendable : url.isSendable) :
    Transport.target raw = .ok url := by
  have same : (Url.parse? raw).map Url.withoutUser = some url := by
    rw [parsed, Option.map_some, anonymous]
  exact Transport.target_eq_ok_iff.mpr ⟨same, unencrypted, hosted, sendable⟩

/-- A network is asked for what can be sent. -/
theorem online_eq_held {raw : String} :
    Transport.online raw = .held ↔ ∃ url, Transport.target raw = .ok url := by
  rw [Transport.online]
  cases Transport.target raw with
  | error fault => simp [Transport.refusal]
  | ok url => simp

/-- What stands behind the scheme of a plain origin. -/
theorem exists_authority {origin : String} (plain : Url.isOrigin origin) :
    ∃ authority : List Char, authority ≠ [] ∧ (∀ c ∈ authority, Url.isOriginChar c) ∧
      origin.toList = Url.originLead ++ authority := by
  rw [Url.isOrigin] at plain
  cases found : Url.originLead.isPrefixOf? origin.toList with
  | none =>
      rw [found] at plain
      cases plain
  | some authority =>
      rw [found, Bool.and_eq_true, Bool.not_eq_true', List.isEmpty_eq_false_iff,
        List.all_eq_true] at plain
      exact ⟨authority, plain.1, plain.2, (List.isPrefixOf?_eq_some_iff_append_eq.mp found).symm⟩

/-- What clients of a plain origin ask for stands for the path that arrives, and for the
authority of the client's own base. -/
theorem parse?_clientOf {origin : String} (plain : Url.isOrigin origin) (group key : String) :
    ∃ home : Option Url, Url.parse? (clientOf origin).base = home ∧
      Url.parse? ((clientOf origin).url group key) =
        home.map fun url => { url with path := asked group key } := by
  let segments := [baseSegment, (Percent.encode group).toList, (Percent.encode key).toList]
  have written : ∀ segment ∈ segments, IsWritten segment := by
    simpa [segments] using ⟨isWritten_baseSegment, isWritten_encode group, isWritten_encode key⟩
  have unmarked : ∀ c ∈ (joined segments).drop 1, Url.isPathChar c := by
    intro c mem
    rcases mem_joined (List.mem_of_mem_drop mem) with rfl | ⟨segment, listed, inside⟩
    · rfl
    · exact (plain_of_isWritten (written segment listed c inside)).2.1
  have unmarkedBase : ∀ c ∈ "_cache/".toList, Url.isPathChar c :=
    List.all_eq_true.mp (by decide)
  obtain ⟨authority, filled, isAuthority, isOrigin⟩ := exists_authority plain
  have parsed := Url.parse?_origin filled isAuthority unmarked
  have parsedBase := Url.parse?_origin filled isAuthority unmarkedBase
  rw [segments_joined (List.cons_ne_nil _ _) written] at parsed
  have raw : (clientOf origin).url group key = String.ofList
      (Url.originLead ++ (authority ++ '/' :: (joined segments).drop 1)) := by
    rw [url_clientOf, isOrigin, List.append_assoc]
    rfl
  have rawBase : (clientOf origin).base = String.ofList
      (Url.originLead ++ (authority ++ '/' :: "_cache/".toList)) := by
    refine String.toList_inj.mp ?_
    simp [clientOf, isOrigin, Address.defaultBasePath]
  refine ⟨_, rfl, ?_⟩
  rw [raw, rawBase, parsed, parsedBase, Option.map_map]
  rfl

/-- The path that a client of a plain origin asks for. -/
theorem path_of_target {origin : String} (plain : Url.isOrigin origin) {url : Url}
    (sent : Transport.target ((clientOf origin).url group key) = .ok url) :
    url.path = asked group key := by
  obtain ⟨parsed, isParsed, samePath, _⟩ := parse?_of_target sent
  obtain ⟨home, _, isUrl⟩ := parse?_clientOf plain group key
  rw [isParsed] at isUrl
  obtain ⟨based, _, rfl⟩ := Option.map_eq_some_iff.mp isUrl.symm
  exact samePath

/-- Whatever a client of a plain origin asks for, it asks the same authority. -/
theorem authority_of_target {origin : String} (plain : Url.isOrigin origin) {home url : Url}
    (isHome : Url.parse? (clientOf origin).base = some home)
    (sent : Transport.target ((clientOf origin).url group key) = .ok url) :
    url.authority = home.authority := by
  obtain ⟨parsed, isParsed, _, sameAuthority⟩ := parse?_of_target sent
  obtain ⟨based, isBase, isUrl⟩ := parse?_clientOf plain group key
  rw [← isBase, isHome, isParsed] at isUrl
  rw [sameAuthority, Option.some.inj isUrl]
  dsimp only [Url.authority]

/-! ## Reading such paths -/

/-- The path under a base path gives its group and its key back. -/
theorem split_asked (base : String) (groupNamed : group ≠ "") (keyNamed : key ≠ "") :
    split base (base ++ Percent.encode group ++ "/" ++ Percent.encode key) = .ok (group, key) := by
  have laid : Laid base (base ++ Percent.encode group ++ "/" ++ Percent.encode key)
      (Percent.encode group) (Percent.encode key) := by
    refine ⟨rfl, mt Percent.encode_eq_empty.mp groupNamed, mt Percent.encode_eq_empty.mp keyNamed,
      fun slash => ?_⟩
    exact (plain_of_isWritten (isWritten_encode group '/' slash)).1.1 rfl
  exact split_eq_ok_iff.mpr
    ⟨_, _, laid, Percent.spells_encode group, Percent.spells_encode key⟩

theorem joined_pair (first second : List Char) :
    joined [baseSegment, first, second] =
      Address.defaultBasePath.toList ++ (first ++ '/' :: second) := by
  simp [joined, baseSegment, Address.defaultBasePath]

/-- A group and a key that stand in a path are read from it. -/
theorem split_of_stands (groupStands : Stands group) (keyStands : Stands key) :
    split Address.defaultBasePath (asked group key) = .ok (group, key) := by
  have isPath : asked group key =
      Address.defaultBasePath ++ Percent.encode group ++ "/" ++ Percent.encode key := by
    rw [asked_of_stands groupStands keyStands, joined_pair]
    refine String.toList_inj.mp ?_
    simp
  rw [isPath, split_asked Address.defaultBasePath groupStands.1 keyStands.1]

/-- Segments that lack one of them are no path of a group and a key. -/
theorem Lacking.not_laid {segments : List (List Char)} (lacking : Lacking segments)
    (first second : String) :
    ¬ Laid Address.defaultBasePath (String.ofList (joined segments)) first second := by
  intro laid
  have noSlash := noSlash_written lacking.written
  obtain ⟨rest, isRest, parted⟩ := laid_iff_segments?.mp laid
  rw [String.toList_ofList] at isRest
  cases lacking with
  | empty group key written keyWritten empty =>
      rw [joined_pair, List.append_cancel_left_eq] at isRest
      rw [isRest, segments?_parted (noSlash group (by simp)), if_pos (by simpa using empty)]
        at parted
      cases parted
  | short segment written =>
      have isSegment : rest = segment := by
        simpa [joined, baseSegment, Address.defaultBasePath] using isRest
      obtain ⟨parts, _⟩ := segments?_eq_some_iff.mp parted
      have slash : '/' ∈ segment := by simp [← isSegment, parts]
      exact noSlash segment (by simp) slash
  | single segment written =>
      have inside : baseSegment ++ '/' :: rest = segment := by
        simpa [joined, baseSegment, Address.defaultBasePath] using isRest
      have slash : '/' ∈ segment := by simp [← inside]
      exact noSlash segment (by simp) slash

end PeerPath

/-! ## Requests for such paths -/

section Requests

open RingCache.Path PeerPath

variable {segments : List (List Char)}

/-- A path in which no character ends it is the path of a request for it. -/
theorem Http.Request.path_plain {rest : List Char}
    (plain : ∀ c ∈ rest, c ≠ '?' ∧ c ≠ '#') :
    (Request.get (String.ofList ('/' :: rest))).path = String.ofList ('/' :: rest) := by
  have goesOn : ∀ c ∈ '/' :: rest, (c != '?' && c != '#') = true := by
    simpa using plain
  have isPath : (Request.get (String.ofList ('/' :: rest))).path =
      Request.pathOf ('/' :: rest) := by
    rw [Request.path, Request.get, String.toList_ofList]
    rfl
  rw [isPath]
  unfold Request.pathOf
  rw [List.takeWhile_eq_self_iff.mpr goesOn]

/-- A character of a written text ends no path. -/
theorem Percent.plain_of_isWritten {character : Char} (isWritten : Percent.isWritten character) :
    character ≠ '?' ∧ character ≠ '#' := by
  have isPath := (Path.plain_of_isWritten isWritten).2.1
  simp only [Url.isPathChar, Bool.and_eq_true, Bool.not_eq_true', List.contains_eq_mem,
    decide_eq_false_iff_not, List.mem_cons, not_or] at isPath
  exact ⟨isPath.2.2.1, isPath.2.2.2.1⟩

/-- The path of a request for a path of written texts. -/
theorem Http.Request.path_get (filled : segments ≠ [])
    (written : ∀ segment ∈ segments, IsWritten segment) :
    (Request.get (String.ofList (joined segments))).path = String.ofList (joined segments) := by
  have plain : ∀ c ∈ joined segments, c ≠ '?' ∧ c ≠ '#' := by
    intro c mem
    rcases mem_joined mem with rfl | ⟨segment, listed, inside⟩
    · decide
    · exact Percent.plain_of_isWritten (written segment listed c inside)
  obtain ⟨first, rest, rfl⟩ := List.exists_cons_of_ne_nil filled
  exact Http.Request.path_plain fun c mem => plain c (List.mem_cons_of_mem _ mem)

theorem Http.Route.segments_ofList (written : ∀ segment ∈ segments, IsWritten segment) :
    Route.segments (String.ofList (joined segments)) = "" :: segments.map String.ofList := by
  rw [Route.segments, String.toList_ofList, splitOn_joined (noSlash_written written)]
  rfl

/-- A path that starts with the segment of the endpoint for peers leads there. -/
theorem Http.Route.ofPath_based {rest : List (List Char)}
    (written : ∀ segment ∈ baseSegment :: rest, IsWritten segment) :
    Route.ofPath (String.ofList (joined (baseSegment :: rest))) = .exchange := by
  have isBase : String.ofList baseSegment = "_cache" := rfl
  have differ : "_cache" ≠ "peers" ∧ "_cache" ≠ "stats" ∧ "_cache" ≠ "health" ∧
      "_cache" ≠ "api" := by
    decide
  rw [Route.ofPath, Route.segments_ofList written, List.map_cons, isBase]
  split
  · rename_i same
    exact absurd (List.cons.inj (List.cons.inj same).2).1 differ.1
  · rename_i same
    exact absurd (List.cons.inj (List.cons.inj same).2).1 differ.2.1
  · rename_i same
    exact absurd (List.cons.inj (List.cons.inj same).2).1 differ.2.2.1
  · rename_i same
    exact absurd (List.cons.inj (List.cons.inj same).2).1 differ.2.2.2
  · rfl

/-- A path of one segment leads to no value of a group. -/
theorem Http.Route.ofPath_single {segment : List Char} (written : IsWritten segment) :
    Route.ofPath (String.ofList (joined [segment])) ∈
      [Route.peers, .stats, .health, .exchange] := by
  rw [Route.ofPath, Route.segments_ofList (by simpa using written)]
  split
  · simp
  · simp
  · simp
  · rename_i same
    simp at same
  · simp

variable {node : Node} {group key : String}

/-- A node that is asked for a group and a key that stand in a path looks them up. -/
theorem Node.decide_of_stands (base : node.basePath = Address.defaultBasePath) (time : String)
    (groupStands : Stands group) (keyStands : Stands key) :
    node.decide time (.get (asked group key)) =
      (node.look true group key).mapResponse Response.anyOrigin := by
  have read := split_of_stands groupStands keyStands
  rw [asked_of_stands groupStands keyStands] at read ⊢
  have written : ∀ segment ∈ [baseSegment, (Percent.encode group).toList,
      (Percent.encode key).toList], IsWritten segment := by
    simpa using ⟨isWritten_baseSegment, isWritten_encode group, isWritten_encode key⟩
  have isPath := Request.path_get (List.cons_ne_nil _ _) written
  have leads := Route.ofPath_based written
  rw [← base] at read
  rw [← isPath] at leads
  rw [Node.decide_get node time leads (by rfl), Node.decideRoute, isPath,
    Node.decideExchange_of_split read]

/-- From a node that is asked for anything else no client gets octets. -/
theorem Node.decide_of_falls (base : node.basePath = Address.defaultBasePath) (time : String)
    (falls : ¬ (Stands group ∧ Stands key)) :
    ∃ response, node.decide time (.get (asked group key)) = .respond response ∧
      response.Refused := by
  obtain ⟨segments, lacking, isAsked⟩ := asked_of_falls falls
  have written := lacking.written
  have filled : segments ≠ [] := by cases lacking <;> exact List.cons_ne_nil _ _
  have isPath := Request.path_get filled written
  rw [isAsked]
  have exchanged : Route.ofPath (String.ofList (joined segments)) = .exchange →
      ∃ response, node.decide time (.get (String.ofList (joined segments))) = .respond response ∧
        response.Refused := by
    intro leads
    obtain ⟨fault, unread⟩ := exists_fault fun first second laid =>
      absurd laid (lacking.not_laid first second)
    rw [← base] at unread
    rw [← isPath] at leads
    rw [Node.decide_get node time leads (by rfl), Node.decideRoute, isPath,
      Node.decideExchange_of_fault unread]
    exact ⟨_, rfl, Response.refused_failure _⟩
  cases lacking with
  | empty first second _ _ _ => exact exchanged (Route.ofPath_based written)
  | short segment _ => exact exchanged (Route.ofPath_based written)
  | single segment isWritten =>
      have leads := Route.ofPath_single isWritten
      simp only [List.mem_cons, List.not_mem_nil, or_false] at leads
      rcases leads with peers | stats | health | exchange
      · refine ⟨Route.peers.withAllow { status := 405 : Response }.anyOrigin, ?_,
          fun raw url => Client.receive_failed (by rfl) false none⟩
        rw [Node.decide, isPath, peers]
        rfl
      · rw [Node.decide_get node time (isPath ▸ stats) (by rfl)]
        exact ⟨_, rfl, Response.refused_json (Envelope.read_counters _)⟩
      · rw [Node.decide_get node time (isPath ▸ health) (by rfl)]
        exact ⟨_, rfl, Response.refused_json (Envelope.read_health _ _ _)⟩
      · exact exchanged exchange

end Requests

end RingCache
