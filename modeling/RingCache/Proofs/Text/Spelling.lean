import Mathlib.Tactic.SplitIfs
import RingCache.Proofs.Text.Percent

/-!
# What spells a text

Octets spell a text exactly if they are its octets (`Utf8.decode_eq_ok_iff`): whatever the reader
takes for a character is the one way to write this character. With escapes there are more ways.
`Percent.Reads` is the grammar of escapes, in which each octet stands for itself or belongs to one
escape, and `Percent.Spells` says of a text that it spells another one in this grammar; this is what
`Percent.decode` decides (`Percent.decode_eq_ok_iff`).
-/

namespace RingCache

namespace Utf8

/-! ## Octets of one character -/

/-- What the first octet of a character of two to four octets promises. -/
theorem ofLead?_cases {lead : Nat} {started : Started}
    (leads : Started.ofLead? lead = some started) :
    (started.owed = 0 ∧ 0xC2 ≤ lead ∧ lead ≤ 0xDF ∧ started.bits = lead - 0xC0 ∧
        started.low = 0x80 ∧ started.high = 0xBF) ∨
      (started.owed = 1 ∧ 0xE0 ≤ lead ∧ lead ≤ 0xEF ∧ started.bits = lead - 0xE0 ∧
        0x80 ≤ started.low ∧ started.high ≤ 0xBF ∧ (lead = 0xE0 → 0xA0 ≤ started.low) ∧
        (lead = 0xED → started.high ≤ 0x9F)) ∨
      (started.owed = 2 ∧ 0xF0 ≤ lead ∧ lead ≤ 0xF4 ∧ started.bits = lead - 0xF0 ∧
        0x80 ≤ started.low ∧ started.high ≤ 0xBF ∧ (lead = 0xF0 → 0x90 ≤ started.low) ∧
        (lead = 0xF4 → started.high ≤ 0x8F)) := by
  rw [Started.ofLead?] at leads
  split_ifs at leads <;> cases leads <;> dsimp only <;> omega

theorem val_charOfNat {code : Nat} (valid : code.isValidChar) :
    (Char.ofNat code).val.toNat = code := by
  rw [Char.ofNat, dif_pos valid]
  rfl

theorem ofNat_eq_of_toNat {number : Nat} (octet : UInt8) (same : number = octet.toNat) :
    UInt8.ofNat number = octet := by
  rw [same, UInt8.ofNat_toNat]

variable {first second third fourth : UInt8} {code : Nat}

/-- Two octets are those of the code point that they spell. -/
theorem encodeChar_two (above : 0xC2 ≤ first.toNat) (below : first.toNat ≤ 0xDF)
    (low : 0x80 ≤ second.toNat) (high : second.toNat ≤ 0xBF)
    (spelled : code = (first.toNat - 0xC0) * 0x40 + (second.toNat - 0x80)) :
    String.utf8EncodeChar (Char.ofNat code) = [first, second] := by
  rw [String.utf8EncodeChar, val_charOfNat (.inl (by omega)), if_neg (by omega),
    if_pos (by omega), ofNat_eq_of_toNat first (by omega),
    ofNat_eq_of_toNat second (by omega)]

/-- Three octets are those of the code point that they spell, unless it is a surrogate. -/
theorem encodeChar_three (above : 0xE0 ≤ first.toNat) (below : first.toNat ≤ 0xEF)
    (low : 0x80 ≤ second.toNat) (high : second.toNat ≤ 0xBF)
    (long : first.toNat = 0xE0 → 0xA0 ≤ second.toNat)
    (single : first.toNat = 0xED → second.toNat ≤ 0x9F)
    (thirdLow : 0x80 ≤ third.toNat) (thirdHigh : third.toNat ≤ 0xBF)
    (spelled : code = ((first.toNat - 0xE0) * 0x40 + (second.toNat - 0x80)) * 0x40 +
      (third.toNat - 0x80)) :
    String.utf8EncodeChar (Char.ofNat code) = [first, second, third] := by
  have valid : code.isValidChar := by
    by_cases early : code < 0xD800
    · exact .inl early
    · exact .inr ⟨by omega, by omega⟩
  rw [String.utf8EncodeChar, val_charOfNat valid, if_neg (by omega), if_neg (by omega),
    if_pos (by omega), ofNat_eq_of_toNat first (by omega),
    ofNat_eq_of_toNat second (by omega), ofNat_eq_of_toNat third (by omega)]

/-- Four octets are those of the code point that they spell. -/
theorem encodeChar_four (above : 0xF0 ≤ first.toNat) (below : first.toNat ≤ 0xF4)
    (low : 0x80 ≤ second.toNat) (high : second.toNat ≤ 0xBF)
    (long : first.toNat = 0xF0 → 0x90 ≤ second.toNat)
    (inside : first.toNat = 0xF4 → second.toNat ≤ 0x8F)
    (thirdLow : 0x80 ≤ third.toNat) (thirdHigh : third.toNat ≤ 0xBF)
    (fourthLow : 0x80 ≤ fourth.toNat) (fourthHigh : fourth.toNat ≤ 0xBF)
    (spelled : code = (((first.toNat - 0xF0) * 0x40 + (second.toNat - 0x80)) * 0x40 +
      (third.toNat - 0x80)) * 0x40 + (fourth.toNat - 0x80)) :
    String.utf8EncodeChar (Char.ofNat code) = [first, second, third, fourth] := by
  have valid : code.isValidChar := .inr ⟨by omega, by omega⟩
  rw [String.utf8EncodeChar, val_charOfNat valid, if_neg (by omega), if_neg (by omega),
    if_neg (by omega), ofNat_eq_of_toNat first (by omega),
    ofNat_eq_of_toNat second (by omega), ofNat_eq_of_toNat third (by omega),
    ofNat_eq_of_toNat fourth (by omega)]

/-! ## Octets without broken parts -/

variable {octets rest : Octets} {started : Started} {characters : List Char} {text : String}

/-- A character that is complete has a further octet, if it owes one. -/
theorem owed_of_scalars (read : piecesFrom (some started) octets = characters.map .scalar) :
    ∃ next after, octets = next :: after ∧ started.low ≤ next.toNat ∧
      next.toNat ≤ started.high := by
  cases octets with
  | nil =>
      rw [piecesFrom] at read
      cases characters <;> cases read
  | cons next after =>
      by_cases inRange : started.low ≤ next.toNat ∧ next.toNat ≤ started.high
      · exact ⟨next, after, rfl, inRange⟩
      · rw [piecesFrom, if_neg inRange] at read
        cases characters <;> cases read

/-- A first piece that is a character comes from octets of this character. -/
def StartsWith (octets : Octets) (characters : List Char) : Prop :=
  ∃ character others after, characters = character :: others ∧
    octets = String.utf8EncodeChar character ++ after ∧
      piecesFrom none after = others.map .scalar

/-- The octets of a character stand before those of the others. -/
theorem startsWith_of_cons {code : Nat} {written : List UInt8}
    (encodes : String.utf8EncodeChar (Char.ofNat code) = written)
    (read : Piece.scalar (Char.ofNat code) :: piecesFrom none rest = characters.map .scalar) :
    StartsWith (written ++ rest) characters := by
  cases characters with
  | nil => cases read
  | cons character others =>
      obtain ⟨isCharacter, behind⟩ := List.cons.inj read
      cases isCharacter
      exact ⟨_, others, rest, rfl, by rw [encodes], behind⟩

/-- A first octet that owes others starts a character that is written with it. -/
theorem startsWith_of_lead (large : 0x80 ≤ first.toNat)
    (leads : Started.ofLead? first.toNat = some started)
    (read : piecesFrom none (first :: rest) = characters.map .scalar) :
    StartsWith (first :: rest) characters := by
  rw [piecesFrom_lead large leads] at read
  obtain ⟨second, rest, rfl, low, high⟩ := owed_of_scalars read
  rcases ofLead?_cases leads with ⟨owes, above, below, bits, isLow, isHigh⟩ |
    ⟨owes, above, below, bits, lower, upper, long, single⟩ |
    ⟨owes, above, below, bits, lower, upper, long, inside⟩
  · rw [piecesFrom_last owes low high] at read
    exact startsWith_of_cons
      (encodeChar_two above below (by omega) (by omega) (by rw [bits])) read
  · rw [piecesFrom_further owes low high] at read
    obtain ⟨third, rest, rfl, thirdLow, thirdHigh⟩ := owed_of_scalars read
    rw [piecesFrom_last rfl thirdLow thirdHigh] at read
    exact startsWith_of_cons
      (encodeChar_three above below (by omega) (by omega) (fun first => by omega)
        (fun first => by omega) thirdLow thirdHigh (by rw [bits])) read
  · rw [piecesFrom_further owes low high] at read
    obtain ⟨third, rest, rfl, thirdLow, thirdHigh⟩ := owed_of_scalars read
    rw [piecesFrom_further rfl thirdLow thirdHigh] at read
    obtain ⟨fourth, rest, rfl, fourthLow, fourthHigh⟩ := owed_of_scalars read
    rw [piecesFrom_last rfl fourthLow fourthHigh] at read
    exact startsWith_of_cons
      (encodeChar_four above below (by omega) (by omega) (fun first => by omega)
        (fun first => by omega) thirdLow thirdHigh fourthLow fourthHigh (by rw [bits])) read

/-- Octets that are read without broken parts start with a character that is written with them. -/
theorem startsWith_of_scalars (read : piecesFrom none (first :: rest) = characters.map .scalar) :
    StartsWith (first :: rest) characters := by
  by_cases small : first.toNat < 0x80
  · have same : (Char.ofNat first.toNat).toNat = first.toNat := toNat_charOfNat (by omega)
    have alone : String.utf8EncodeChar (Char.ofNat first.toNat) = [first] := by
      rw [encodeChar_ascii (by omega), same, UInt8.ofNat_toNat]
    rw [piecesFrom, if_pos small] at read
    exact startsWith_of_cons alone read
  · cases leads : Started.ofLead? first.toNat with
    | none =>
        rw [piecesFrom, if_neg small, leads] at read
        cases characters <;> cases read
    | some started => exact startsWith_of_lead (Nat.not_lt.mp small) leads read

/-- Octets that are read without broken parts are those of the characters that are read. -/
theorem octets_of_scalars (characters : List Char) {octets : Octets}
    (read : piecesFrom none octets = characters.map .scalar) :
    octets = characters.flatMap String.utf8EncodeChar := by
  induction characters generalizing octets with
  | nil =>
      cases octets with
      | nil => rfl
      | cons first rest =>
          obtain ⟨_, _, _, isCons, _⟩ := startsWith_of_scalars read
          cases isCons
  | cons character others inductionHypothesis =>
      cases octets with
      | nil => cases read
      | cons first rest =>
          obtain ⟨_, _, after, isCons, split, behind⟩ := startsWith_of_scalars read
          cases isCons
          rw [split, List.flatMap_cons, ← inductionHypothesis behind]

/-- Pieces are a text only if none of them is broken. -/
theorem scalars_of_textOf {index : Nat} {pieces : List Piece}
    (isText : textOf index pieces = .ok characters) : pieces = characters.map .scalar := by
  induction pieces generalizing index characters with
  | nil =>
      cases isText
      rfl
  | cons piece rest inductionHypothesis =>
      cases piece with
      | broken length => cases isText
      | cut length => cases isText
      | scalar character =>
          rw [textOf] at isText
          cases behind : textOf (index + character.utf8Size) rest with
          | error fault =>
              rw [behind] at isText
              cases isText
          | ok others =>
              rw [behind] at isText
              cases isText
              rw [inductionHypothesis behind, List.map_cons]

/-- Octets spell a text exactly if they are the octets of the text. -/
theorem decode_eq_ok_iff : decode octets = .ok text ↔ octets = encode text := by
  constructor
  · intro decoded
    rw [decode] at decoded
    cases isText : textOf 0 (pieces octets) with
    | error fault =>
        rw [isText] at decoded
        cases decoded
    | ok characters =>
        rw [isText] at decoded
        cases decoded
        rw [encode, String.toList_ofList]
        exact octets_of_scalars characters (scalars_of_textOf isText)
  · rintro rfl
    exact decode_encode text

/-- Different texts have different octets. -/
theorem encode_injective : Function.Injective encode := by
  intro text other same
  have decoded := decode_encode text
  rw [same, decode_encode] at decoded
  exact (Except.ok.inj decoded).symm

end Utf8

namespace Percent

/-! ## Escapes -/

/-- Whether octets start with an escape, a percent sign and two digits. -/
def StartsEscape (raw : Octets) : Prop :=
  ∃ high low rest, raw = 37 :: high :: low :: rest ∧
    (Digits.hexValue? high).isSome ∧ (Digits.hexValue? low).isSome

/-- How octets with escapes are read: from the left, each escape once, and each octet that starts no
escape as it stands. -/
inductive Reads : Octets → Octets → Prop where
  | nil : Reads [] []
  | escape {high low : UInt8} {highValue lowValue : Nat} {raw read : Octets}
      (isHigh : Digits.hexValue? high = some highValue)
      (isLow : Digits.hexValue? low = some lowValue) (goesOn : Reads raw read) :
      Reads (37 :: high :: low :: raw) (UInt8.ofNat (highValue * 16 + lowValue) :: read)
  | plain {octet : UInt8} {raw read : Octets} (noEscape : ¬ StartsEscape (octet :: raw))
      (goesOn : Reads raw read) : Reads (octet :: raw) (octet :: read)

variable {raw read : Octets} {octet : UInt8} {segment text : String}

theorem octets_plain (noEscape : ¬ StartsEscape (octet :: raw)) :
    octets (octet :: raw) = octet :: octets raw := by
  rw [octets.eq_def]
  split
  next high low rest same =>
    obtain ⟨rfl, rfl⟩ := List.cons.inj same
    split
    next highValue lowValue isHigh isLow =>
      exact absurd ⟨high, low, rest, rfl, by simp [isHigh], by simp [isLow]⟩ noEscape
    next => rfl
  next same =>
    obtain ⟨rfl, rfl⟩ := List.cons.inj same
    rfl
  next isEmpty => cases isEmpty

/-- However octets are read, they have a reading. -/
theorem reads_octets (raw : Octets) : Reads raw (octets raw) := by
  induction raw using octets.induct with
  | case1 high low rest highValue lowValue isLow isHigh inductionHypothesis =>
      rw [octets, isHigh, isLow]
      exact .escape isHigh isLow inductionHypothesis
  | case2 high low rest noDigits inductionHypothesis =>
      have noEscape : ¬ StartsEscape (37 :: high :: low :: rest) := by
        rintro ⟨_, _, _, same, isHigh, isLow⟩
        cases same
        exact noDigits _ _ (Option.some_get isHigh).symm (Option.some_get isLow).symm
      rw [octets_plain noEscape]
      exact .plain noEscape inductionHypothesis
  | case3 octet rest short inductionHypothesis =>
      have noEscape : ¬ StartsEscape (octet :: rest) := by
        rintro ⟨high, low, others, same, _⟩
        obtain ⟨isPercent, isRest⟩ := List.cons.inj same
        exact short high low others isPercent isRest
      rw [octets_plain noEscape]
      exact .plain noEscape inductionHypothesis
  | case4 => exact .nil

/-- Octets with escapes are read in one way. -/
theorem reads_iff : Reads raw read ↔ octets raw = read := by
  constructor
  · intro reads
    induction reads with
    | nil => rfl
    | escape isHigh isLow _ inductionHypothesis =>
        rw [octets, isHigh, isLow, ← inductionHypothesis]
    | plain noEscape _ inductionHypothesis => rw [octets_plain noEscape, inductionHypothesis]
  · rintro rfl
    exact reads_octets raw

/-- Whether a segment spells a text, with escapes or without. -/
def Spells (segment text : String) : Prop :=
  Reads (Utf8.encode segment) (Utf8.encode text)

theorem decode_eq_ok_iff : decode segment = .ok text ↔ Spells segment text := by
  rw [decode, Utf8.decode_eq_ok_iff, Spells, reads_iff]

end Percent

end RingCache
