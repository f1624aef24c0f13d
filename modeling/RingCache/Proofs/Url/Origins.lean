import Mathlib.Data.List.TakeWhile
import RingCache.Url

/-!
# URLs of plain origins

An origin is plain if it is a scheme with a host, which may have a port: nothing in it
ends an authority or names a user (`Url.isOrigin`). What is put behind such an origin,
from a slash on, is the path of the URL and nothing else (`Url.parse?_origin`), so that
only dot segments and escapes change it.
-/

namespace RingCache.Url

/-- Whether a character may stand in the host or the port of a plain origin. -/
def isOriginChar (character : Char) : Bool :=
  0x20 < character.toNat && !(['/', '\\', '?', '#', '@'].contains character)

/-- What comes before the host of an origin. -/
def originLead : List Char := ['h', 't', 't', 'p', ':', '/', '/']

/-- Whether a text is a plain origin. -/
def isOrigin (text : String) : Bool :=
  match originLead.isPrefixOf? text.toList with
  | none => false
  | some authority => !authority.isEmpty && authority.all isOriginChar

/-- Whether a character may stand in a path behind an origin, where it ends no path and
is not dropped. -/
def isPathChar (character : Char) : Bool :=
  0x20 < character.toNat && !(['\\', '?', '#'].contains character)

variable {authority path : List Char}

theorem isPathChar_of_isOriginChar {character : Char} (isOrigin : isOriginChar character) :
    isPathChar character := by
  simp only [isOriginChar, isPathChar, Bool.and_eq_true, Bool.not_eq_true', List.contains_eq_mem,
    decide_eq_false_iff_not, List.mem_cons, not_or] at isOrigin ⊢
  exact ⟨isOrigin.1, isOrigin.2.2.1, isOrigin.2.2.2.1, isOrigin.2.2.2.2.1, nofun⟩

/-! ## The authority -/

theorem isSlash_of_isOriginChar {character : Char} (isOrigin : isOriginChar character) :
    isSlash true character = false := by
  simp only [isOriginChar, Bool.and_eq_true, Bool.not_eq_true', List.contains_eq_mem,
    decide_eq_false_iff_not, List.mem_cons, not_or] at isOrigin
  simp [isSlash, isOrigin.2.1, isOrigin.2.2.1]

/-- The host part of an authority does not look behind it. -/
theorem hostPart_append (inside : Bool) (plain : ∀ c ∈ authority, isOriginChar c)
    (path : List Char) :
    hostPart true inside (authority ++ '/' :: path) = hostPart true inside authority := by
  induction authority generalizing inside with
  | nil => simp [hostPart, isSlash]
  | cons character rest inductionHypothesis =>
      rw [List.cons_append, hostPart, hostPart,
        inductionHypothesis _ fun c mem => plain c (List.mem_cons_of_mem _ mem)]

/-- The host part of an authority ends with it, or at a colon. -/
theorem hostPart_split (inside : Bool) (plain : ∀ c ∈ authority, isOriginChar c) :
    ∃ rest, authority = hostPart true inside authority ++ rest ∧
      (rest = [] ∨ ∃ port, rest = ':' :: port) := by
  induction authority generalizing inside with
  | nil => exact ⟨[], by simp [hostPart], .inl rfl⟩
  | cons character others inductionHypothesis =>
      have noSlash := isSlash_of_isOriginChar (plain character List.mem_cons_self)
      obtain ⟨rest, split, ends⟩ := inductionHypothesis
        ((inside || character == '[') && character != ']')
        fun c mem => plain c (List.mem_cons_of_mem _ mem)
      rw [hostPart, noSlash, Bool.false_or]
      split
      · rename_i colon
        have isColon : character = ':' := by simpa using (Bool.and_eq_true_iff.mp colon).1
        exact ⟨character :: others, rfl, .inr ⟨others, by rw [isColon]⟩⟩
      · exact ⟨rest, by rw [List.cons_append, ← split], ends⟩

/-- Nobody is named in an authority without an at sign. -/
theorem splitUser_plain (plain : ∀ c ∈ authority, isOriginChar c) (text : List Char)
    (isAuthority : text.takeWhile (fun character => !isSlash true character) = authority) :
    splitUser true text = (none, text) := by
  have nobody : authority.reverse.dropWhile (· != '@') = [] := by
    rw [List.dropWhile_eq_nil_iff]
    intro c mem
    have isOrigin := plain c (List.mem_reverse.mp mem)
    rw [bne_iff_ne]
    rintro rfl
    cases isOrigin
  rw [splitUser, isAuthority, nobody]

/-- A port ends at a slash. -/
theorem port?_append {port : List Char} (plain : ∀ c ∈ port, isOriginChar c) (path : List Char) :
    port? (port ++ '/' :: path) = (port? port).map fun found => (found.1, '/' :: path) := by
  obtain ⟨digits, others, split, taken, takenBefore⟩ : ∃ digits others,
      port = digits ++ others ∧ port.takeWhile Char.isDigit = digits ∧
        (port ++ '/' :: path).takeWhile Char.isDigit = digits := by
    refine ⟨port.takeWhile Char.isDigit, port.dropWhile Char.isDigit,
      (List.takeWhile_append_dropWhile).symm, rfl, ?_⟩
    rw [List.takeWhile_append]
    split
    · rename_i all
      have whole : port.takeWhile Char.isDigit = port :=
        (List.takeWhile_prefix _).eq_of_length all
      rw [whole, List.takeWhile_cons_of_neg (by decide), List.append_nil]
    · rfl
  unfold port?
  dsimp only
  rw [taken, takenBefore, split, List.append_assoc, List.drop_left, List.drop_left]
  cases others with
  | nil =>
      have slash : isSlash true '/' = true := rfl
      simp only [List.nil_append, List.head?_nil, List.head?_cons, Option.all_none, Option.all_some,
        slash]
      cases digits with
      | nil => rfl
      | cons digit digits =>
          cases Digits.unsigned? Digits.limit16
            ((digit :: digits).map fun digit => UInt8.ofNat digit.toNat) <;> rfl
  | cons c others =>
      have noSlash : isSlash true c = false := by
        refine isSlash_of_isOriginChar (plain c ?_)
        rw [split]
        exact List.mem_append_right _ List.mem_cons_self
      simp only [List.cons_append, List.head?_cons, Option.all_some, noSlash]
      rfl

/-- What is put behind an authority, from a slash on, is left over and changes
nothing. -/
theorem authority?_append (plain : ∀ c ∈ authority, isOriginChar c) (path : List Char) :
    authority? "http" (authority ++ '/' :: path) =
      (authority? "http" authority).map fun found => (found.1, '/' :: path) := by
  have noSlash : ∀ c ∈ authority, (!isSlash true c) = true := fun c mem => by
    rw [isSlash_of_isOriginChar (plain c mem)]
    rfl
  have wholeBefore : (authority ++ '/' :: path).takeWhile (fun c => !isSlash true c) = authority := by
    rw [List.takeWhile_append_of_pos noSlash, List.takeWhile_cons_of_neg (by simp [isSlash]),
      List.append_nil]
  have whole : authority.takeWhile (fun c => !isSlash true c) = authority :=
    List.takeWhile_eq_self_iff.mpr noSlash
  have web : isWeb "http" = true := rfl
  obtain ⟨rest, split, ends⟩ := hostPart_split false plain
  unfold authority?
  dsimp only
  rw [web, splitUser_plain plain _ wholeBefore, splitUser_plain plain _ whole]
  dsimp only
  rw [hostPart_append false plain path]
  generalize hostPart true false authority = written at split
  subst split
  rw [List.append_assoc, List.drop_left, List.drop_left]
  simp only [Bool.true_or, Bool.and_true, if_true]
  cases written.isEmpty with
  | true => rfl
  | false =>
      cases webHost? written with
      | none => rfl
      | some host =>
          rcases ends with rfl | ⟨port, rfl⟩
          · rfl
          · simp only [List.cons_append, Option.bind_eq_bind, Option.bind_some]
            rw [port?_append fun c mem => plain c
              (List.mem_append_right _ (List.mem_cons_of_mem _ mem))]
            cases port? port <;> rfl

/-! ## The path -/

/-- Nothing is dropped from characters of which none is a blank or a control. -/
theorem trimmed_eq_self {text : List Char} (visible : ∀ c ∈ text, 0x20 < c.toNat) :
    ((Blank.trimBoth isMargin text).filter fun c => !isBreak c) = text := by
  have noMargin : ∀ characters : List Char, (∀ c ∈ characters, 0x20 < c.toNat) →
      characters.dropWhile isMargin = characters := by
    intro characters visible
    cases characters with
    | nil => rfl
    | cons c rest =>
        have above := visible c List.mem_cons_self
        exact List.dropWhile_cons_of_neg (by simp [isMargin, above])
  rw [Blank.trimBoth, Blank.trimRight, noMargin text visible,
    noMargin text.reverse fun c mem => visible c (List.mem_reverse.mp mem), List.reverse_reverse,
    List.filter_eq_self]
  intro c mem
  have above := visible c mem
  have noBreak : c ≠ '\t' ∧ c ≠ '\n' ∧ c ≠ '\r' := by
    refine ⟨?_, ?_, ?_⟩ <;> rintro rfl <;> revert above <;> decide
  simp [isBreak, noBreak]

/-- A text without a mark is not cut there. -/
theorem cutAt_eq_self {mark : Char} {text : List Char} (unmarked : ∀ c ∈ text, c ≠ mark) :
    cutAt mark text = (text, none) := by
  have nothing : text.dropWhile (· != mark) = [] :=
    List.dropWhile_eq_nil_iff.mpr fun c mem => bne_iff_ne.mpr (unmarked c mem)
  rw [cutAt, nothing]

/-- Behind its scheme, an origin with a path is its authority, and the path is resolved. -/
theorem ofScheme?_origin (filled : authority ≠ []) (plain : ∀ c ∈ authority, isOriginChar c)
    (path : List Char) :
    ofScheme? "http" ('/' :: '/' :: (authority ++ '/' :: path)) =
      (authority? "http" authority).map fun found =>
        { found.1 with path := Path.text (Path.resolve false (Path.segments true path)) } := by
  obtain ⟨first, rest, rfl⟩ := List.exists_cons_of_ne_nil filled
  have noSlash := isSlash_of_isOriginChar (plain first List.mem_cons_self)
  have started : ('/' :: '/' :: (first :: rest ++ '/' :: path)).dropWhile (isSlash true) =
      first :: rest ++ '/' :: path := by
    rw [List.dropWhile_cons_of_pos rfl, List.dropWhile_cons_of_pos rfl, List.cons_append,
      List.dropWhile_cons_of_neg (by simp [noSlash])]
  rw [ofScheme?, if_neg (by decide), if_pos (by rfl), web?, started, authority?_append plain]
  cases authority? "http" (first :: rest) <;> rfl

/-- What is put behind a plain origin, from a slash on, is the path of the URL. -/
theorem parse?_origin (filled : authority ≠ []) (plain : ∀ c ∈ authority, isOriginChar c)
    (unmarked : ∀ c ∈ path, isPathChar c) :
    parse? (String.ofList (originLead ++ (authority ++ '/' :: path))) =
      (authority? "http" authority).map fun found =>
        { found.1 with
          path := Path.text (Path.resolve false (Path.segments true path))
          query := none
          fragment := none } := by
  have allPath : ∀ c ∈ '/' :: '/' :: (authority ++ '/' :: path), isPathChar c := by
    refine List.forall_mem_cons.mpr ⟨rfl, List.forall_mem_cons.mpr ⟨rfl, ?_⟩⟩
    exact List.forall_mem_append.mpr ⟨fun c mem => isPathChar_of_isOriginChar (plain c mem),
      List.forall_mem_cons.mpr ⟨rfl, unmarked⟩⟩
  have visible : ∀ c ∈ originLead ++ (authority ++ '/' :: path), 0x20 < c.toNat := by
    have visibleLead : ∀ c ∈ originLead, 0x20 < c.toNat := by simp [originLead]
    refine List.forall_mem_append.mpr ⟨visibleLead, fun c behind => ?_⟩
    have isPath := allPath c (List.mem_cons_of_mem _ (List.mem_cons_of_mem _ behind))
    rw [isPathChar, Bool.and_eq_true, decide_eq_true_eq] at isPath
    exact isPath.1
  have scheme : splitScheme? (originLead ++ (authority ++ '/' :: path)) =
      some ("http", '/' :: '/' :: (authority ++ '/' :: path)) := rfl
  have noMark : ∀ mark, isPathChar mark = false →
      ∀ c ∈ '/' :: '/' :: (authority ++ '/' :: path), c ≠ mark := by
    rintro mark isMark c mem rfl
    rw [allPath c mem] at isMark
    cases isMark
  unfold parse?
  rw [written, String.toList_ofList, trimmed_eq_self visible]
  dsimp only
  rw [scheme, Option.bind_eq_bind, Option.bind_some]
  dsimp only
  rw [cutAt_eq_self (noMark '#' rfl)]
  dsimp only
  rw [cutAt_eq_self (noMark '?' rfl)]
  dsimp only
  rw [ofScheme?_origin filled plain]
  cases authority? "http" authority <;> rfl

end RingCache.Url
