import RingCache.Node
import RingCache.Proofs.Text.Spelling

/-!
# The grammar of the peer endpoint

A path under the base path names a group and a key if it has the form of `Laid`, and each of its two
segments spells a text. `Reading` gives one rule for such paths, and one for each way in which a
path falls short of it; there is a rule for every path (`exists_reading`). So `split_iff_reading`
says all about `PeerPath.split`, and `split_accepts_its_grammar` what this comes to: which paths are
accepted, that they are read in one way, and that no key that comes from a peer is empty.
-/

namespace RingCache

namespace Percent

variable {segment text other : String}

/-- A segment spells one text. -/
theorem Spells.unique (spells : Spells segment text) (spellsOther : Spells segment other) :
    text = other :=
  Except.ok.inj ((decode_eq_ok_iff.mpr spells).symm.trans (decode_eq_ok_iff.mpr spellsOther))

/-- A written text spells this text. -/
theorem spells_encode (text : String) : Spells (encode text) text :=
  decode_eq_ok_iff.mp (decode_encode text)

/-- A segment that is not empty spells no empty text. -/
theorem Spells.named (spells : Spells segment text) (named : segment ≠ "") : text ≠ "" := by
  have nothing : ∀ {raw}, Reads raw [] → raw = [] := by
    rintro raw ⟨⟩
    rfl
  rintro rfl
  exact named (Utf8.encode_injective (nothing spells))

end Percent

namespace PeerPath

open Percent

/-! ## The form of a path -/

/-- A path is two segments under a base path, the first of which ends at the first slash. -/
structure Laid (base path first second : String) : Prop where
  /-- The path is the base path and the segments, with a slash between them. -/
  joined : path = base ++ first ++ "/" ++ second
  /-- The first segment is not empty. -/
  firstNamed : first ≠ ""
  /-- Nor is the second. -/
  secondNamed : second ≠ ""
  /-- The first segment has no slash. -/
  noSlash : '/' ∉ first.toList

variable {base path first second other others : String}

/-- The first slash parts characters that have none before it. -/
theorem segments?_parted {first : List Char} (noSlash : '/' ∉ first) (second : List Char) :
    segments? (first ++ '/' :: second) =
      if first.isEmpty || second.isEmpty then none else some (first, second) := by
  have before : ∀ c ∈ first, (c != '/') = true := fun c mem =>
    bne_iff_ne.mpr fun same => noSlash (same ▸ mem)
  rw [segments?, List.takeWhile_append_of_pos before, List.takeWhile_cons_of_neg (by simp),
    List.dropWhile_append_of_pos before, List.dropWhile_cons_of_neg (by simp), List.append_nil]

/-- The segments of characters are those before the first slash and those behind it. -/
theorem segments?_eq_some_iff {rest first second : List Char} :
    segments? rest = some (first, second) ↔
      rest = first ++ '/' :: second ∧ first ≠ [] ∧ second ≠ [] ∧ '/' ∉ first := by
  constructor
  · intro parted
    rw [segments?] at parted
    have whole := List.takeWhile_append_dropWhile (p := (· != '/')) (l := rest)
    have noSlash : '/' ∉ rest.takeWhile (· != '/') := fun mem => by
      simpa using List.all_eq_true.mp List.all_takeWhile '/' mem
    have stops := List.head?_dropWhile_not (· != '/') rest
    cases behind : rest.dropWhile (· != '/') with
    | nil =>
        rw [behind] at parted
        cases parted
    | cons slash key =>
        rw [behind] at parted whole stops
        obtain rfl : slash = '/' := by simpa using stops
        dsimp only at parted
        split at parted
        · cases parted
        · rename_i filled
          cases parted
          simp only [Bool.or_eq_true, List.isEmpty_iff, not_or] at filled
          exact ⟨whole.symm, filled.1, filled.2, noSlash⟩
  · rintro ⟨rfl, firstNamed, secondNamed, noSlash⟩
    rw [segments?_parted noSlash]
    simp [firstNamed, secondNamed]

/-- A path is laid out as some segments exactly if these are in front of the first slash and behind
it. -/
theorem laid_iff_segments? : Laid base path first second ↔
    ∃ rest, base.toList ++ rest = path.toList ∧
      segments? rest = some (first.toList, second.toList) := by
  simp only [segments?_eq_some_iff, ne_eq, String.toList_eq_nil_iff]
  constructor
  · rintro ⟨rfl, firstNamed, secondNamed, noSlash⟩
    exact ⟨_, by simp, rfl, firstNamed, secondNamed, noSlash⟩
  · rintro ⟨_, joined, rfl, firstNamed, secondNamed, noSlash⟩
    exact ⟨String.toList_inj.mp (by simp [← joined]), firstNamed, secondNamed, noSlash⟩

/-- A path is laid out in one way. -/
theorem Laid.unique (laid : Laid base path first second) (laidOther : Laid base path other others) :
    first = other ∧ second = others := by
  obtain ⟨rest, isRest, segments⟩ := laid_iff_segments?.mp laid
  obtain ⟨restOther, isOther, segmentsOther⟩ := laid_iff_segments?.mp laidOther
  obtain rfl := List.append_cancel_left (isRest.trans isOther.symm)
  rw [segments, Option.some.injEq, Prod.mk.injEq] at segmentsOther
  exact ⟨String.toList_inj.mp segmentsOther.1, String.toList_inj.mp segmentsOther.2⟩

/-! ## What is read of a path -/

/-- What a path names under a base path, or why it names nothing. -/
inductive Reading (base path : String) : Except Fault (String × String) → Prop where
  | pair {first second group key : String} (laid : Laid base path first second)
      (groupSpelled : Spells first group) (keySpelled : Spells second key) :
      Reading base path (.ok (group, key))
  | unexpected (outside : ¬ base.toList <+: path.toList) :
      Reading base path (.error (.unexpected path))
  | incomplete (inside : base.toList <+: path.toList)
      (shapeless : ∀ first second, ¬ Laid base path first second) :
      Reading base path (.error (.incomplete base path))
  | badGroup {first second : String} {fault : Utf8.Fault} (laid : Laid base path first second)
      (unread : Percent.decode first = .error fault) :
      Reading base path (.error (.badEscape path fault))
  | badKey {first second group : String} {fault : Utf8.Fault} (laid : Laid base path first second)
      (groupSpelled : Spells first group) (unread : Percent.decode second = .error fault) :
      Reading base path (.error (.badEscape path fault))

theorem split_of_outside (outside : ¬ base.toList <+: path.toList) :
    split base path = .error (.unexpected path) := by
  have notUnder : base.toList.isPrefixOf? path.toList = none := by
    rw [Option.eq_none_iff_forall_ne_some]
    intro rest found
    exact outside ⟨rest, List.isPrefixOf?_eq_some_iff_append_eq.mp found⟩
  rw [split, notUnder]

theorem split_of_shapeless (inside : base.toList <+: path.toList)
    (shapeless : ∀ first second, ¬ Laid base path first second) :
    split base path = .error (.incomplete base path) := by
  obtain ⟨rest, joined⟩ := inside
  have notParted : segments? rest = none := by
    rw [Option.eq_none_iff_forall_ne_some]
    rintro ⟨first, second⟩ parted
    exact shapeless (String.ofList first) (String.ofList second)
      (laid_iff_segments?.mpr ⟨rest, joined, by simpa using parted⟩)
  rw [split, List.isPrefixOf?_eq_some_iff_append_eq.mpr joined]
  simp only [notParted]

/-- Of a path that is laid out, the segments are read one after the other. -/
theorem split_of_laid (laid : Laid base path first second) :
    split base path =
      match Percent.decode first, Percent.decode second with
      | .ok group, .ok key => .ok (group, key)
      | .error fault, _ => .error (.badEscape path fault)
      | .ok _, .error fault => .error (.badEscape path fault) := by
  obtain ⟨rest, joined, parted⟩ := laid_iff_segments?.mp laid
  rw [split, List.isPrefixOf?_eq_some_iff_append_eq.mpr joined]
  simp only [parted, decode, String.ofList_toList]
  cases Percent.decode first <;> cases Percent.decode second <;> rfl

/-- What a rule says of a path is read of it. -/
theorem split_of_reading {result : Except Fault (String × String)}
    (reading : Reading base path result) : split base path = result := by
  cases reading with
  | pair laid groupSpelled keySpelled =>
      rw [split_of_laid laid, decode_eq_ok_iff.mpr groupSpelled, decode_eq_ok_iff.mpr keySpelled]
  | unexpected outside => exact split_of_outside outside
  | incomplete inside shapeless => exact split_of_shapeless inside shapeless
  | badGroup laid unread => rw [split_of_laid laid, unread]
  | badKey laid groupSpelled unread =>
      rw [split_of_laid laid, decode_eq_ok_iff.mpr groupSpelled, unread]

/-- There is a rule for every path. -/
theorem exists_reading (base path : String) : ∃ result, Reading base path result := by
  by_cases inside : base.toList <+: path.toList
  · by_cases shaped : ∃ first second, Laid base path first second
    · obtain ⟨first, second, laid⟩ := shaped
      cases group : Percent.decode first with
      | error fault => exact ⟨_, .badGroup laid group⟩
      | ok groupText =>
          have groupSpelled := decode_eq_ok_iff.mp group
          cases key : Percent.decode second with
          | error fault => exact ⟨_, .badKey laid groupSpelled key⟩
          | ok keyText => exact ⟨_, .pair laid groupSpelled (decode_eq_ok_iff.mp key)⟩
    · exact ⟨_, .incomplete inside fun first second laid => shaped ⟨first, second, laid⟩⟩
  · exact ⟨_, .unexpected inside⟩

/-- What is read of a path is what the rules say, and nothing else. -/
theorem split_iff_reading {result : Except Fault (String × String)} :
    split base path = result ↔ Reading base path result := by
  constructor
  · rintro rfl
    obtain ⟨result, reading⟩ := exists_reading base path
    rwa [split_of_reading reading]
  · exact split_of_reading

/-- A path that is accepted is laid out as two segments that spell the group and the key. -/
theorem split_eq_ok_iff {group key : String} : split base path = .ok (group, key) ↔
    ∃ first second, Laid base path first second ∧ Spells first group ∧ Spells second key := by
  rw [split_iff_reading]
  constructor
  · rintro ⟨laid, groupSpelled, keySpelled⟩
    exact ⟨_, _, laid, groupSpelled, keySpelled⟩
  · rintro ⟨first, second, laid, groupSpelled, keySpelled⟩
    exact .pair laid groupSpelled keySpelled

/-- A path that falls short of the grammar is refused. -/
theorem exists_fault (none : ∀ first second, Laid base path first second →
    ∀ group key, Spells first group → ¬ Spells second key) :
    ∃ fault, split base path = .error fault := by
  cases found : split base path with
  | error fault => exact ⟨fault, rfl⟩
  | ok pair =>
      obtain ⟨first, second, laid, groupSpelled, keySpelled⟩ := split_eq_ok_iff.mp found
      exact absurd keySpelled (none first second laid pair.1 pair.2 groupSpelled)

/-- What is read of a path is not empty. -/
theorem named_of_split {group key : String} (read : split base path = .ok (group, key)) :
    group ≠ "" ∧ key ≠ "" := by
  obtain ⟨first, second, laid, groupSpelled, keySpelled⟩ := split_eq_ok_iff.mp read
  exact ⟨groupSpelled.named laid.firstNamed, keySpelled.named laid.secondNamed⟩

end PeerPath

/-! ## What a node makes of a path -/

namespace Node

open Http PeerPath Percent

variable {node : Node} {time : String} {request : Request} {number : Nat} {key : String}
  {answer : Result → Response}

/-- What a `GET` leads to, on a route that takes it. -/
theorem decide_get (node : Node) (time : String) {target : String} {route : Route}
    (leads : Route.ofPath (Request.get target).path = route) (takes : route.takes "GET") :
    node.decide time (.get target) =
      (node.decideRoute time (.get target) route).mapResponse .anyOrigin := by
  have isGet : (Request.get target).method = "GET" := rfl
  rw [decide, leads, isGet]
  dsimp only
  rw [if_neg (by decide), if_neg (by simp [takes]), if_neg (by simp)]

/-- On the route of peers, every method but the one for permissions is a request of a peer. -/
theorem decide_of_exchange (route : Route.ofPath request.path = .exchange)
    (asks : request.method ≠ "OPTIONS") :
    node.decide time request = (node.decideExchange request.path).mapResponse .anyOrigin := by
  rw [decide, route]
  simp [asks, Route.takes, Route.methods?, decideRoute]

/-- What a peer's request leads to, when its path is read. -/
theorem decideExchange_of_split {path group : String}
    (read : split node.basePath path = .ok (group, key)) :
    node.decideExchange path = node.look true group key := by
  rw [decideExchange, read]

/-- A peer's request whose path is refused is malformed. -/
theorem decideExchange_of_fault {path : String} {fault : PeerPath.Fault}
    (refused : split node.basePath path = .error fault) :
    node.decideExchange path = .respond (Response.failure (.malformedRequest fault.message)) := by
  rw [decideExchange, refused]

/-- A lookup for a peer is one of the key that is read of its path. -/
theorem split_of_lookup (route : Route.ofPath request.path = .exchange)
    (looks : node.decide time request = .lookup number key answer) :
    ∃ group, split node.basePath request.path = .ok (group, key) := by
  by_cases asks : request.method = "OPTIONS"
  · rw [decide] at looks
    simp [asks] at looks
  · rw [decide_of_exchange route asks] at looks
    cases read : split node.basePath request.path with
    | error fault =>
        rw [decideExchange_of_fault read] at looks
        cases looks
    | ok pair =>
        obtain ⟨group, other⟩ := pair
        rw [decideExchange_of_split read, look] at looks
        cases named : node.registry.number? group with
        | none =>
            rw [named] at looks
            cases looks
        | some found =>
            rw [named] at looks
            cases looks
            exact ⟨group, rfl⟩

end Node

namespace PeerPath

open Http Percent

/-- A path is accepted exactly if it is the base path, a segment without a slash, a slash and
another segment, neither of them empty and each of which spells a text; then these are the group
and the key. There is one way to part the path so, and one text that a segment spells, in which
each escape is read once and everything else stands for itself; neither text is empty. Every other
path is refused, for the reason that `Reading` gives, and a request for it is answered as malformed.
So whatever a peer asks for, a node looks no empty key up for it. -/
theorem split_accepts_its_grammar (base path : String) :
    (∀ group key, split base path = .ok (group, key) ↔
      ∃ first second, Laid base path first second ∧ Spells first group ∧ Spells second key) ∧
    (∀ first second other others, Laid base path first second → Laid base path other others →
      first = other ∧ second = others) ∧
    (∀ segment text other, Spells segment text → Spells segment other → text = other) ∧
    (∀ group key, split base path = .ok (group, key) → group ≠ "" ∧ key ≠ "") ∧
    ((∀ first second, Laid base path first second →
      ∀ group key, Spells first group → ¬ Spells second key) →
        ∃ fault, split base path = .error fault) ∧
    (∀ fault, split base path = .error fault ↔ Reading base path (.error fault)) ∧
    ∀ (node : Node) time request, node.basePath = base → request.path = path →
      Route.ofPath path = .exchange →
        (∀ fault, split base path = .error fault → request.method ≠ "OPTIONS" →
          node.decide time request =
            .respond (Response.failure (.malformedRequest fault.message)).anyOrigin) ∧
        ∀ number key answer, node.decide time request = .lookup number key answer → key ≠ "" := by
  refine ⟨fun group key => split_eq_ok_iff, fun first second other others => Laid.unique,
    fun segment text other => Spells.unique, fun group key => named_of_split, exists_fault,
    fun fault => split_iff_reading, ?_⟩
  rintro node time request rfl rfl route
  constructor
  · intro fault refused asks
    rw [Node.decide_of_exchange route asks, Node.decideExchange_of_fault refused]
    rfl
  · intro number key answer looks
    obtain ⟨group, read⟩ := Node.split_of_lookup route looks
    exact (named_of_split read).2

-- The first slash parts the path, and what an escape spells is not read again.
example : split "/_cache/" "/_cache/a%2Fb/c%252F/+%zz" = .ok ("a/b", "c%2F/+%zz") := by
  decide +kernel

-- A character of two octets may be spelled in two escapes, but not over two segments.
example : split "" "%C3%A9/%C3" = .error (.badEscape "%C3%A9/%C3" (.incomplete 0)) := by
  decide +kernel

end PeerPath

end RingCache
