import RingCache.Node
import RingCache.Proofs.Pool.Addresses
import RingCache.Proofs.Pool.Topology
import RingCache.Proofs.Text.Utf8

/-!
# Spellings of addresses

A plain address is spelled with blanks around it and slashes after it, and the texts that have it as
their normal form are its spellings and no others (`Address.normalize_eq_iff`). A list spells
addresses with one spelling for each, in order, and blank entries anywhere.

A pool has its own address and those of its peers in normal form, so it is the same under all
spellings. A list in a variable is parted and trimmed before the pool has it. Trimming changes no
normal form, and what it drops has an empty one; so the pieces between the commas count as if they
had come to the pool as they are (`Pool.addresses_splitPeers`).
-/

namespace RingCache

/-! ## Both ends of a text -/

namespace Blank

variable {drop : Char → Bool} {before core after characters : List Char}

/-- Whether the first character of a text is one that is dropped. -/
def startsIn (drop : Char → Bool) (characters : List Char) : Bool :=
  characters.head?.any drop

theorem trimRight_eq_self (ends : endsIn drop characters = false) :
    trimRight drop characters = characters := by
  rcases trimRight_cases drop characters with ⟨_, same⟩ | ⟨dropped, _⟩
  · exact same
  · rw [ends] at dropped
    cases dropped

theorem dropWhile_eq_self (starts : startsIn drop characters = false) :
    characters.dropWhile drop = characters := by
  cases characters with
  | nil => rfl
  | cons first rest => exact List.dropWhile_cons_of_neg (Bool.not_eq_true _ ▸ starts)

/-- Characters that are dropped do not matter at the right end. -/
theorem trimRight_append (dropped : ∀ character ∈ after, drop character = true) :
    trimRight drop (core ++ after) = trimRight drop core := by
  rw [trimRight, List.reverse_append, List.dropWhile_append_of_pos, trimRight]
  exact fun character mem => dropped character (List.mem_reverse.mp mem)

/-- Between characters that are dropped, a text stays that neither starts nor ends with one. -/
theorem trimBoth_around (droppedBefore : ∀ character ∈ before, drop character = true)
    (droppedAfter : ∀ character ∈ after, drop character = true)
    (starts : startsIn drop core = false) (ends : endsIn drop core = false) :
    trimBoth drop (before ++ core ++ after) = core := by
  rw [trimBoth, List.append_assoc, List.dropWhile_append_of_pos droppedBefore]
  cases core with
  | nil =>
      have nothing : after.dropWhile drop = [] := List.dropWhile_eq_nil_iff.mpr droppedAfter
      rw [List.nil_append, nothing]
      rfl
  | cons first rest =>
      have kept : ((first :: rest) ++ after).dropWhile drop = (first :: rest) ++ after :=
        dropWhile_eq_self starts
      rw [kept, trimRight_append droppedAfter, trimRight_eq_self ends]

/-- Every text is what is left of it, between characters that are dropped. -/
theorem exists_around (drop : Char → Bool) (characters : List Char) :
    ∃ before after, (∀ character ∈ before, drop character = true) ∧
      (∀ character ∈ after, drop character = true) ∧
      characters = before ++ trimBoth drop characters ++ after := by
  refine ⟨characters.takeWhile drop, (characters.dropWhile drop).rtakeWhile drop,
    fun character => List.mem_takeWhile_imp, fun character => List.mem_rtakeWhile_imp, ?_⟩
  rw [trimBoth, trimRight_eq_rdropWhile, List.append_assoc, List.rdropWhile_append_rtakeWhile,
    List.takeWhile_append_dropWhile]

/-- What is left of a text starts with no character that is dropped. -/
theorem startsIn_trimBoth (drop : Char → Bool) (characters : List Char) :
    startsIn drop (trimBoth drop characters) = false := by
  obtain ⟨rest, whole⟩ : trimBoth drop characters <+: characters.dropWhile drop :=
    List.rdropWhile_prefix drop _
  cases trimmed : trimBoth drop characters with
  | nil => rfl
  | cons first inner =>
      rw [trimmed] at whole
      have stays := List.head?_dropWhile_not drop characters
      rw [← whole] at stays
      exact stays

/-- Nothing is dropped twice. -/
theorem trimBoth_trimBoth (drop : Char → Bool) (characters : List Char) :
    trimBoth drop (trimBoth drop characters) = trimBoth drop characters := by
  have ends : endsIn drop (trimBoth drop characters) = false := endsIn_trimRight drop _
  rw [trimBoth, dropWhile_eq_self (startsIn_trimBoth drop characters), trimRight_eq_self ends]

end Blank

/-! ## Spellings -/

namespace Address

/-- Whether an address is not empty, has no blanks around it and does not end in a slash. -/
def Plain (address : String) : Prop :=
  address ≠ "" ∧ Blank.startsIn Blank.isBlank address.toList = false ∧
    Blank.endsIn Blank.isBlank address.toList = false ∧
    Blank.endsIn isSlash address.toList = false

/-- Whether a text consists of blanks. -/
def IsBlank (text : String) : Prop :=
  ∀ character ∈ text.toList, Blank.isBlank character = true

/-- Whether a text is an address with slashes after it, and blanks around both. -/
def Spells (address text : String) : Prop :=
  ∃ before slashes after : List Char,
    (∀ character ∈ before, Blank.isBlank character = true) ∧
    (∀ character ∈ slashes, isSlash character = true) ∧
    (∀ character ∈ after, Blank.isBlank character = true) ∧
    text.toList = before ++ (address.toList ++ slashes) ++ after

/-- Whether texts spell addresses, one after the other, with blank texts among them. -/
inductive SpellsAll : List String → List String → Prop where
  | nil : SpellsAll [] []
  | blank {addresses texts : List String} {text : String} (blank : IsBlank text)
      (others : SpellsAll addresses texts) : SpellsAll addresses (text :: texts)
  | entry {addresses texts : List String} {address text : String} (spelled : Spells address text)
      (others : SpellsAll addresses texts) : SpellsAll (address :: addresses) (text :: texts)

instance : DecidablePred Plain := fun _ => inferInstanceAs (Decidable (_ ∧ _))

instance (text : String) : Decidable (IsBlank text) := List.decidableBAll _ _

variable {address text : String} {addresses texts : List String}

theorem toList_normalize (text : String) :
    (normalize text).toList = Blank.trimRight isSlash (Blank.trimBoth Blank.isBlank text.toList) :=
  String.toList_ofList

/-- An address spells itself. -/
theorem Spells.refl (address : String) : Spells address address :=
  ⟨[], [], [], by simp⟩

/-- Addresses spell themselves. -/
theorem SpellsAll.refl (addresses : List String) : SpellsAll addresses addresses := by
  induction addresses with
  | nil => exact .nil
  | cons address rest inductionHypothesis => exact .entry (.refl address) inductionHypothesis

/-- Every text spells its normal form. -/
theorem spells_normalize (text : String) : Spells (normalize text) text := by
  obtain ⟨before, after, blankBefore, blankAfter, whole⟩ :=
    Blank.exists_around Blank.isBlank text.toList
  refine ⟨before, (Blank.trimBoth Blank.isBlank text.toList).rtakeWhile isSlash, after, blankBefore,
    fun character => List.mem_rtakeWhile_imp, blankAfter, ?_⟩
  rw [toList_normalize, Blank.trimRight_eq_rdropWhile, List.rdropWhile_append_rtakeWhile]
  exact whole

/-- The normal form of a plain address with slashes after it is this address. -/
theorem Spells.normalize_eq (plain : Plain address) (spelled : Spells address text) :
    normalize text = address := by
  obtain ⟨filled, starts, ends, unslashed⟩ := plain
  obtain ⟨before, slashes, after, blankBefore, areSlashes, blankAfter, whole⟩ := spelled
  have coreStarts : Blank.startsIn Blank.isBlank (address.toList ++ slashes) = false := by
    cases isText : address.toList with
    | nil => exact absurd (String.toList_eq_nil_iff.mp isText) filled
    | cons first rest => rwa [isText] at starts
  have coreEnds : Blank.endsIn Blank.isBlank (address.toList ++ slashes) = false := by
    induction slashes using List.reverseRecOn with
    | nil => rwa [List.append_nil]
    | append_singleton front last _ =>
        obtain rfl : last = '/' := by simpa [isSlash] using areSlashes last (by simp)
        rw [← List.append_assoc, Blank.endsIn_concat]
        decide
  apply String.toList_inj.mp
  rw [toList_normalize, whole, Blank.trimBoth_around blankBefore blankAfter coreStarts coreEnds,
    Blank.trimRight_append areSlashes, Blank.trimRight_eq_self unslashed]

/-- The texts with a plain address as their normal form are its spellings. -/
theorem normalize_eq_iff (plain : Plain address) : normalize text = address ↔ Spells address text :=
  ⟨fun same => same ▸ spells_normalize text, Spells.normalize_eq plain⟩

/-- Nothing is left of a blank text. -/
theorem IsBlank.trimBoth_eq (blank : IsBlank text) :
    Blank.trimBoth Blank.isBlank text.toList = [] := by
  rw [Blank.trimBoth, List.dropWhile_eq_nil_iff.mpr blank]
  rfl

theorem IsBlank.normalize_eq (blank : IsBlank text) : normalize text = "" := by
  rw [normalize, blank.trimBoth_eq]
  rfl

/-- A text without the blanks around it has the normal form that it had with them. -/
theorem normalize_trim (text : String) : normalize (Blank.trim text) = normalize text := by
  rw [normalize, Blank.trim, String.toList_ofList, Blank.trimBoth_trimBoth, ← normalize]

/-- A spelling has no characters but blanks, slashes and those of the address. -/
theorem Spells.not_mem {character : Char} (spelled : Spells address text)
    (noBlank : Blank.isBlank character = false) (noSlash : isSlash character = false)
    (absent : character ∉ address.toList) : character ∉ text.toList := by
  obtain ⟨before, slashes, after, blankBefore, areSlashes, blankAfter, whole⟩ := spelled
  rw [whole]
  simp only [List.mem_append, not_or]
  refine ⟨⟨fun mem => ?_, absent, fun mem => ?_⟩, fun mem => ?_⟩
  · exact Bool.false_ne_true (noBlank.symm.trans (blankBefore character mem))
  · exact Bool.false_ne_true (noSlash.symm.trans (areSlashes character mem))
  · exact Bool.false_ne_true (noBlank.symm.trans (blankAfter character mem))

/-- Spellings of addresses without commas have no commas. -/
theorem SpellsAll.noCommas (spelled : SpellsAll addresses texts)
    (noCommas : ∀ address ∈ addresses, ',' ∉ address.toList) :
    ∀ text ∈ texts, ',' ∉ text.toList := by
  induction spelled with
  | nil => exact fun _ mem => absurd mem List.not_mem_nil
  | blank blank _ inductionHypothesis =>
      refine List.forall_mem_cons.mpr ⟨fun mem => ?_, inductionHypothesis noCommas⟩
      exact absurd (blank ',' mem) (by decide)
  | entry spelled _ inductionHypothesis =>
      obtain ⟨first, rest⟩ := List.forall_mem_cons.mp noCommas
      exact List.forall_mem_cons.mpr
        ⟨spelled.not_mem (by decide) (by decide) first, inductionHypothesis rest⟩

end Address

/-! ## Pools -/

namespace Pool

open Address

variable {self selfText : String} {peers texts : List String}

/-- A blank entry names nobody, and every other entry comes with its normal form. -/
theorem addresses_cons (text : String) (texts : List String) :
    addresses (text :: texts) =
      if normalize text = "" then addresses texts else normalize text :: addresses texts := by
  rw [addresses, List.map_cons, List.filter_cons]
  by_cases nothing : normalize text = "" <;> simp [addresses, nothing]

/-- Texts that spell plain addresses name these. -/
theorem addresses_of_spellsAll (plain : ∀ peer ∈ peers, Plain peer)
    (spelled : SpellsAll peers texts) : addresses texts = peers := by
  induction spelled with
  | nil => rfl
  | blank blank _ inductionHypothesis =>
      rw [addresses_cons, if_pos blank.normalize_eq, inductionHypothesis plain]
  | entry spelled _ inductionHypothesis =>
      obtain ⟨first, rest⟩ := List.forall_mem_cons.mp plain
      have isFirst := (normalize_eq_iff first).mpr spelled
      rw [addresses_cons, isFirst, if_neg first.1, inductionHypothesis rest]

/-- The entries of a list with commas name those whom the pieces between the commas name. -/
theorem addresses_splitPeers (text : String) :
    addresses (Config.splitPeers text) = addresses (Config.pieces text) := by
  rw [Config.splitPeers]
  induction Config.pieces text with
  | nil => rfl
  | cons piece rest inductionHypothesis =>
      rw [addresses_cons, List.map_cons, List.filter_cons, ← normalize_trim]
      by_cases nothing : Blank.trim piece = ""
      · have dropped : normalize "" = "" := by decide
        simp [nothing, dropped, inductionHypothesis]
      · simp [nothing, addresses_cons, inductionHypothesis]

/-- What a pool has been told is told apart by normal forms only. -/
theorem among_eq (sameSelf : normalize selfText = normalize self)
    (samePeers : addresses texts = addresses peers) (basePath : String) (replicas : Nat)
    (transport : Transport) :
    among texts basePath replicas transport selfText =
      among peers basePath replicas transport self := by
  simp only [among, create, setPeers, clientOf, sameSelf, samePeers]

end Pool

/-! ## Peers in a variable -/

namespace Config

variable {texts : List String} {text name : String} {environment : Environment}

/-- The pieces of texts with commas between them are these texts. -/
theorem pieces_intercalate (filled : texts ≠ []) (noCommas : ∀ text ∈ texts, ',' ∉ text.toList) :
    pieces (",".intercalate texts) = texts := by
  have comma : ",".toList = [','] := by decide
  have split : (",".intercalate texts).toList.splitOn ',' = texts.map String.toList := by
    rw [String.toList_intercalate, comma]
    refine List.splitOn_intercalate ',' (fun characters mem => ?_) (by simpa using filled)
    obtain ⟨text, textMem, rfl⟩ := List.mem_map.mp mem
    exact noCommas text textMem
  rw [pieces, split, List.map_map]
  exact List.map_id'' (fun _ => String.ofList_toList) texts

/-- A variable with the octets of a text has this text. -/
theorem text?_eq (set : environment name = some (Utf8.encode text)) :
    text? environment name = some text := by
  rw [text?, set, Option.bind_some, Utf8.decode?, Utf8.decode_encode]
  rfl

/-- A list that names somebody is taken as it is. -/
theorem addresses_peersOr (self text : String)
    (named : Pool.addresses (pieces text) ≠ []) :
    Pool.addresses (peersOr self (some text)) = Pool.addresses (pieces text) := by
  rw [← Pool.addresses_splitPeers] at named ⊢
  cases entries : splitPeers text with
  | nil =>
      rw [entries] at named
      exact absurd rfl named
  | cons first rest => simp [peersOr, entries]

end Config

namespace Pool

open Address

/-- Whether two pools list the same peers and pick the same client for every key. -/
def Alike (pool other : Pool) : Prop :=
  pool.peers = other.peers ∧ ∀ key, pool.pick? key = other.pick? key

theorem alike_of_eq {pool other : Pool} (same : pool = other) : Alike pool other :=
  same ▸ ⟨rfl, fun _ => rfl⟩

/-- Spellings do not matter to a pool. Whatever its own address and those of its peers are, they can
be spelled with blanks around them and slashes after them, with blank entries anywhere in the list:
the pool lists the same peers and picks the same client for every key. It lists the addresses
themselves, picks nobody for a key that belongs to the node, and never picks a client of the node
itself. Peers in a variable, spelled so between commas with blank pieces, make the same pool, and
the pool of a configured node is the one of these addresses. -/
theorem spellings_make_one_pool {self selfText : String} {peers texts : List String}
    (basePath : String) (replicas : Nat) (transport : Transport) (plainSelf : Plain self)
    (plainPeers : ∀ peer ∈ peers, Plain peer) (selfSpelled : Spells self selfText)
    (spelled : SpellsAll peers texts) :
    let pool := among peers basePath replicas transport self
    let respelled := among texts basePath replicas transport selfText
    respelled.Alike pool ∧
    (∀ address, address ∈ respelled.peers ↔ address ∈ peers) ∧
    (∀ key, respelled.ring.owner? key = some self → respelled.pick? key = none) ∧
    (∀ key client, respelled.pick? key = some client →
      ∃ owner ∈ peers, owner ≠ self ∧ client = ⟨owner ++ Address.basePath basePath⟩) ∧
    (peers ≠ [] → (∀ peer ∈ peers, ',' ∉ peer.toList) → ∀ environment : Config.Environment,
      environment "PEERS" = some (Utf8.encode (",".intercalate texts)) →
      let config := Config.ofEnvironment environment
      (among config.peers basePath replicas transport selfText).Alike pool ∧
      (Spells self config.address → ∀ source, ∃ own,
        (Node.ofConfig config source transport).pool = some own ∧
        own.Alike (among peers config.basePath config.replicas transport self))) := by
  intro pool respelled
  have named := addresses_of_spellsAll plainPeers spelled
  have sameSelf {text : String} (spells : Spells self text) : normalize text = normalize self := by
    rw [spells.normalize_eq plainSelf, (Spells.refl self).normalize_eq plainSelf]
  have samePeers : addresses texts = addresses peers := by
    rw [named, addresses_of_spellsAll plainPeers (.refl peers)]
  refine ⟨alike_of_eq (among_eq (sameSelf selfSpelled) samePeers _ _ _), fun address => ?_,
    fun key found => ?_, fun key client picked => ?_, ?_⟩
  · rw [← named]
    exact (peers_setPeers _ texts).2 address
  · exact (pick?_among found).trans (if_pos (selfSpelled.normalize_eq plainSelf).symm)
  · have sameBind : respelled.pick? key = _ := pick?_setPeers _ texts key
    rw [sameBind, Option.bind_eq_some_iff] at picked
    obtain ⟨owner, found, chosen⟩ := picked
    have mem : owner ∈ addresses texts := (ringOf_holds replicas texts).owner_mem found
    have isSelf : (create selfText basePath replicas transport).self = self :=
      selfSpelled.normalize_eq plainSelf
    rw [isSelf] at chosen
    split at chosen
    · cases chosen
    · rename_i differs
      exact ⟨owner, named ▸ mem, differs, (Option.some.inj chosen).symm⟩
  · intro filled noCommas environment set config
    have parted : Config.pieces (",".intercalate texts) = texts := by
      refine Config.pieces_intercalate (fun nothing => filled ?_) (spelled.noCommas noCommas)
      rw [← named, nothing]
      rfl
    have sameEntries : addresses config.peers = addresses peers := by
      have listed :
          config.peers = Config.peersOr config.address (Config.text? environment "PEERS") := rfl
      have someone : addresses (Config.pieces (",".intercalate texts)) ≠ [] := by
        rwa [parted, named]
      rw [listed, Config.text?_eq set, Config.addresses_peersOr _ _ someone, parted, samePeers]
    refine ⟨alike_of_eq (among_eq (sameSelf selfSpelled) sameEntries _ _ _),
      fun selfNamed source => ⟨_, rfl, ?_⟩⟩
    exact alike_of_eq (among_eq (sameSelf selfNamed) sameEntries _ _ _)

/-- A node that spells its address with a tab and a slash has its own place among peers that are
spelled with blanks, slashes and blank pieces between commas. -/
theorem two_spelled_peers :
    let environment : Config.Environment := fun name =>
      if name = "PEERS" then some (Utf8.encode " ,http://a:1//,, http://b:2 ")
      else if name = "SELF_ADDR" then some (Utf8.encode "\thttp://a:1/") else none
    let config := Config.ofEnvironment environment
    ∃ own, (Node.ofConfig config .scores .online).pool = some own ∧
      own.Alike (among ["http://a:1", "http://b:2"] config.basePath config.replicas .online
        "http://a:1") := by
  intro environment config
  have self : Plain "http://a:1" := by decide
  have other : Plain "http://b:2" := by decide
  have own : Spells "http://a:1" "\thttp://a:1/" := (normalize_eq_iff self).mp (by decide)
  have spelled : SpellsAll ["http://a:1", "http://b:2"] [" ", "http://a:1//", "", " http://b:2 "] :=
    .blank (by decide) (.entry ((normalize_eq_iff self).mp (by decide))
      (.blank (by decide) (.entry ((normalize_eq_iff other).mp (by decide)) .nil)))
  have ownSet : Config.text? environment "SELF_ADDR" = some "\thttp://a:1/" := Config.text?_eq rfl
  have isOwn : config.address = "\thttp://a:1/" :=
    congrArg (Option.getD · (Config.localAddress config.port)) ownSet
  have peersSet : environment "PEERS" =
      some (Utf8.encode (",".intercalate [" ", "http://a:1//", "", " http://b:2 "])) := by
    decide
  obtain ⟨_, _, _, _, ofVariable⟩ := spellings_make_one_pool "" 0 .online self
    (by simpa using ⟨self, other⟩) own spelled
  exact (ofVariable (by decide) (by decide) environment peersSet).2 (isOwn ▸ own) .scores

end Pool

end RingCache
