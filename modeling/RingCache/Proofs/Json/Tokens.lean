import RingCache.Json.Token
import RingCache.Json.Value
import RingCache.Proofs.Text.Utf8

/-!
# Tokens of compact texts

The compact text of a value is split into the tokens that it was put together from.
A string is one token, and reading it gives the string (`tokens_quoted`). What stands
for a number is one token too, if it is made like one (`IsNumeral`); its digits may
have a zero too many in front, which nobody takes (`tokens_numeral`).
-/

namespace RingCache.Json

/-- The octets of characters. -/
def spell (characters : List Char) : Octets :=
  characters.flatMap String.utf8EncodeChar

@[simp] theorem spell_nil : spell [] = [] := rfl

@[simp] theorem spell_cons (character : Char) (rest : List Char) :
    spell (character :: rest) = String.utf8EncodeChar character ++ spell rest := rfl

@[simp] theorem spell_append (front back : List Char) :
    spell (front ++ back) = spell front ++ spell back :=
  List.flatMap_append

theorem encode_render (value : Value) : Utf8.encode value.render = spell value.chars := by
  rw [Value.render, Utf8.encode, String.toList_ofList]
  rfl

namespace Token

/-! ## Strings -/

variable {reversed octets rest : Octets}

theorem plain_iff {octet : UInt8} :
    (32 ≤ octet ∧ octet ≠ 34 ∧ octet ≠ 92) ↔
      (32 ≤ octet.toNat ∧ octet.toNat ≠ 34 ∧ octet.toNat ≠ 92) := by
  simp [UInt8.le_iff_toNat_le, ← UInt8.toNat_inj]

/-- An octet that is no quote, no backslash and no control stands for itself. -/
theorem scanString_octet {octet : UInt8} (above : 32 ≤ octet) (noQuote : octet ≠ 34)
    (noBackslash : octet ≠ 92) :
    scanString (.text reversed) (octet :: rest) = scanString (.text (octet :: reversed)) rest := by
  rw [scanString]
  · exact if_neg (UInt8.not_lt.mpr above)
  · exact noQuote
  · exact fun _ _ _ _ _ isBackslash => absurd isBackslash noBackslash
  · exact fun _ isBackslash => absurd isBackslash noBackslash
  · exact fun _ _ isBackslash => absurd isBackslash noBackslash
  · exact fun isBackslash => absurd isBackslash noBackslash

theorem scanString_octets
    (plain : ∀ octet ∈ octets, 32 ≤ octet ∧ octet ≠ 34 ∧ octet ≠ 92) :
    scanString (.text reversed) (octets ++ rest) =
      scanString (.text (octets.reverse ++ reversed)) rest := by
  induction octets generalizing reversed with
  | nil => rfl
  | cons octet octets inductionHypothesis =>
      obtain ⟨above, noQuote, noBackslash⟩ := plain octet List.mem_cons_self
      rw [List.cons_append, scanString_octet above noQuote noBackslash,
        inductionHypothesis fun other mem => plain other (List.mem_cons_of_mem _ mem),
        List.reverse_cons, List.append_assoc, List.singleton_append]

/-- An escape of one letter stands for the octet that it names. -/
theorem scanString_letter (letter octet : UInt8) (names : escaped? letter = some octet) :
    scanString (.text reversed) (92 :: letter :: rest) =
      scanString (.text (octet :: reversed)) rest := by
  have notUnit : letter ≠ 117 := by
    rintro rfl
    cases names
  rw [scanString, names]
  · rfl
  · exact fun _ _ _ _ _ isUnit => absurd isUnit notUnit
  · exact notUnit

/-- The escape of a control character stands for it. -/
theorem scanString_control {code : Nat} (control : code < 0x20) :
    scanString (.text reversed)
        (spell ['\\', 'u', '0', '0', Digits.lower (code / 16), Digits.lower (code % 16)] ++ rest) =
      scanString (.text (UInt8.ofNat code :: reversed)) rest := by
  have spelled : ∀ code < 0x20,
      spell ['\\', 'u', '0', '0', Digits.lower (code / 16), Digits.lower (code % 16)] =
        [92, 117, 48, 48, UInt8.ofNat (Digits.lower (code / 16)).toNat,
          UInt8.ofNat (Digits.lower (code % 16)).toNat] := by
    decide
  have named : ∀ code < 0x20,
      unit? 48 48 (UInt8.ofNat (Digits.lower (code / 16)).toNat)
        (UInt8.ofNat (Digits.lower (code % 16)).toNat) = some code := by
    decide
  have octets : ∀ code < 0x20,
      (String.utf8EncodeChar (Char.ofNat code)).reverse = [UInt8.ofNat code] := by
    decide
  rw [spelled code control]
  simp only [List.cons_append, List.nil_append]
  rw [scanString, named code control]
  dsimp only
  rw [Gathered.pushUnit, if_neg (by omega), if_neg (by omega), octets code control]
  rfl

/-- What stands for a character in a string is read as this character. -/
theorem scanString_escape (character : Char) :
    scanString (.text reversed) (spell (Value.escape character) ++ rest) =
      scanString (.text ((String.utf8EncodeChar character).reverse ++ reversed)) rest := by
  unfold Value.escape
  split
  · exact scanString_letter 34 34 rfl
  · exact scanString_letter 92 92 rfl
  · exact scanString_letter 98 8 rfl
  · exact scanString_letter 102 12 rfl
  · exact scanString_letter 110 10 rfl
  · exact scanString_letter 114 13 rfl
  · exact scanString_letter 116 9 rfl
  · rename_i noQuote noBackslash _ _ _ _ _
    split
    · rename_i control
      rw [scanString_control control, Utf8.encodeChar_ascii (by omega)]
      rfl
    · rename_i above
      rw [spell_cons, spell_nil, List.append_nil]
      refine scanString_octets fun octet mem => plain_iff.mpr ?_
      by_cases ascii : character.toNat ≤ 0x7F
      · rw [Utf8.encodeChar_ascii ascii, List.mem_singleton] at mem
        have same : octet.toNat = character.toNat :=
          mem ▸ Utf8.toNat_ofNat_of_lt character.toNat (by omega)
        rw [same]
        exact ⟨by omega, fun quote => noQuote (Char.toNat_inj.mp quote),
          fun backslash => noBackslash (Char.toNat_inj.mp backslash)⟩
      · have beyond := Utf8.encodeChar_beyond (Nat.not_le.mp ascii) octet mem
        omega

/-- The rest of a string is read as the text that it stands for. -/
theorem scanString_quoted (text : String) (rest : Octets) :
    scanString (.text []) (spell (text.toList.flatMap Value.escape) ++ 34 :: rest) =
      (.string (.ok text) none, rest) := by
  have gathered : ∀ (characters : List Char) (reversed : Octets),
      scanString (.text reversed) (spell (characters.flatMap Value.escape) ++ 34 :: rest) =
        scanString (.text ((spell characters).reverse ++ reversed)) (34 :: rest) := by
    intro characters
    induction characters with
    | nil => exact fun _ => rfl
    | cons character others inductionHypothesis =>
        intro reversed
        rw [List.flatMap_cons, spell_append, List.append_assoc, scanString_escape,
          inductionHypothesis, spell_cons, List.reverse_append, List.append_assoc]
  have decoded : Utf8.decode (spell text.toList) = .ok text := Utf8.decode_encode text
  rw [gathered, List.append_nil, scanString, Gathered.close, List.reverse_reverse, decoded]
  rfl

/-! ## Numbers -/

/-- Whether octets are decimal digits. -/
def AreDigits (octets : Octets) : Prop :=
  ∀ octet ∈ octets, Digits.isDigit octet

/-- What may stand for the fraction of a number. -/
inductive IsFraction : Octets → Prop where
  | none : IsFraction []
  | some (digits : Octets) (filled : digits ≠ []) (areDigits : AreDigits digits) :
      IsFraction (46 :: digits)

/-- What may stand for the power of ten of a number. -/
inductive IsPower : Octets → Prop where
  | none : IsPower []
  | some (sign digits : Octets) (isSign : sign = [] ∨ sign = [43] ∨ sign = [45])
      (filled : digits ≠ []) (areDigits : AreDigits digits) :
      IsPower (101 :: (sign ++ digits))

/-- Whether octets are made like a number: digits, a fraction and a power, of which
the last two may be missing. -/
inductive IsNumeral : Octets → Prop where
  | intro (first : UInt8) (whole fraction power : Octets) (isDigit : Digits.isDigit first)
      (areDigits : AreDigits whole) (isFraction : IsFraction fraction) (isPower : IsPower power) :
      IsNumeral (first :: (whole ++ (fraction ++ power)))

/-- Whether a value may end before octets: nothing follows, or a comma, or the end of
a list or of an object. -/
def Ends (rest : Octets) : Prop :=
  ∀ octet ∈ rest.head?, octet = 44 ∨ octet = 93 ∨ octet = 125

/-- Digits end where something else follows. -/
theorem span_digits {digits : Octets} (areDigits : AreDigits digits)
    (stops : ∀ octet ∈ rest.head?, Digits.isDigit octet = false) :
    (digits ++ rest).takeWhile Digits.isDigit = digits ∧
      (digits ++ rest).dropWhile Digits.isDigit = rest := by
  rw [List.takeWhile_append_of_pos areDigits, List.dropWhile_append_of_pos areDigits]
  cases rest with
  | nil => exact ⟨List.append_nil _, rfl⟩
  | cons octet others =>
      have noDigit := stops octet rfl
      rw [List.takeWhile_cons_of_neg (by simp [noDigit]), List.dropWhile_cons_of_neg (by simp [noDigit])]
      exact ⟨List.append_nil _, rfl⟩

theorem Ends.noDigit (ends : Ends rest) : ∀ octet ∈ rest.head?, Digits.isDigit octet = false := by
  intro octet mem
  rcases ends octet mem with rfl | rfl | rfl <;> rfl

/-- A digit is no blank, and starts a number. -/
theorem scan_digit {first : UInt8} (isDigit : Digits.isDigit first) (rest : Octets) :
    isSpace first = false ∧ scan first rest = scanNumber first rest := by
  constructor
  · rw [Digits.isDigit, Bool.and_eq_true, decide_eq_true_eq, decide_eq_true_eq,
      UInt8.le_iff_toNat_le, UInt8.le_iff_toNat_le] at isDigit
    have noBlank : first ≠ 32 ∧ first ≠ 9 ∧ first ≠ 10 ∧ first ≠ 13 := by
      refine ⟨?_, ?_, ?_, ?_⟩ <;> rintro rfl <;> simp at isDigit
    simp [isSpace, noBlank]
  · unfold scan
    split
    case h_12 => exact if_pos isDigit
    all_goals cases isDigit

/-- The power of a number ends the number. -/
theorem scanMark_power {power : Octets} (numeral : Numeral) (isPower : IsPower power)
    (ends : Ends rest) :
    ∃ whenRead, scanMark numeral (power ++ rest) = (.number whenRead none, rest) := by
  cases isPower with
  | none =>
      rw [List.nil_append]
      cases rest with
      | nil => exact ⟨_, rfl⟩
      | cons octet others =>
          have noMark : isMark octet = false := by
            rcases ends octet rfl with rfl | rfl | rfl <;> rfl
          rw [scanMark, noMark]
          exact ⟨_, rfl⟩
  | some sign digits isSign filled areDigits =>
      obtain ⟨taken, left⟩ := span_digits areDigits ends.noDigit
      have scanned : ∀ numeral : Numeral,
          ∃ whenRead, scanPower numeral (digits ++ rest) = (.number whenRead Option.none, rest) := by
        intro numeral
        rw [scanPower, taken, left, if_neg (by simpa using filled)]
        exact ⟨_, rfl⟩
      rw [List.cons_append, scanMark, if_pos (by rfl), List.append_assoc]
      rcases isSign with rfl | rfl | rfl
      · obtain ⟨first, others, rfl⟩ := List.exists_cons_of_ne_nil filled
        have isDigit := areDigits first List.mem_cons_self
        rw [List.nil_append, List.cons_append, scanExponent]
        · exact scanned numeral
        · rintro _ isMinus
          cases isMinus
          cases isDigit
        · rintro _ isPlus
          cases isPlus
          cases isDigit
      · exact scanned numeral
      · exact scanned { numeral with negative := true }

/-- A power and what ends a number start with no digit and no point. -/
theorem IsPower.head {power : Octets} (isPower : IsPower power) (ends : Ends rest) :
    ∀ octet ∈ (power ++ rest).head?, Digits.isDigit octet = false ∧ octet ≠ 46 := by
  intro octet mem
  cases isPower with
  | none => rcases ends octet mem with rfl | rfl | rfl <;> decide
  | some sign digits isSign filled areDigits =>
      cases mem
      decide

/-- A fraction, a power and what ends a number start with no digit. -/
theorem IsFraction.head {fraction power : Octets} (isFraction : IsFraction fraction)
    (isPower : IsPower power) (ends : Ends rest) :
    ∀ octet ∈ (fraction ++ (power ++ rest)).head?, Digits.isDigit octet = false := by
  intro octet mem
  cases isFraction with
  | none => exact (isPower.head ends octet mem).1
  | some digits filled areDigits =>
      cases mem
      rfl

/-- What follows the whole part of a number ends it. -/
theorem scanPoint_fraction {fraction power : Octets} (numeral : Numeral)
    (isFraction : IsFraction fraction) (isPower : IsPower power) (ends : Ends rest) :
    ∃ whenRead, scanPoint numeral (fraction ++ (power ++ rest)) = (.number whenRead none, rest) := by
  cases isFraction with
  | none =>
      rw [List.nil_append, scanPoint]
      · exact scanMark_power numeral isPower ends
      · intro octets isPoint
        exact (isPower.head ends 46 (by rw [isPoint]; rfl)).2 rfl
  | some digits filled areDigits =>
      obtain ⟨taken, left⟩ :=
        span_digits areDigits fun octet mem => (isPower.head ends octet mem).1
      rw [List.cons_append, scanPoint, taken, left, if_neg (by simpa using filled)]
      exact scanMark_power _ isPower ends

/-- A number is read as a whole, unless it has a zero too many in front. -/
theorem scanNumber_numeral {first : UInt8} {whole fraction power : Octets}
    (areDigits : AreDigits whole) (isFraction : IsFraction fraction) (isPower : IsPower power)
    (ends : Ends rest) :
    (∃ whenRead, scanNumber first (whole ++ (fraction ++ (power ++ rest))) =
        (.number whenRead none, rest)) ∨
      scanNumber first (whole ++ (fraction ++ (power ++ rest))) =
        (.number (some .malformed) (some .malformed), []) := by
  obtain ⟨taken, left⟩ := span_digits areDigits (isFraction.head isPower ends)
  rw [scanNumber, taken, left]
  by_cases zeros : first = 48 ∧ whole ≠ []
  · exact .inr (if_pos zeros)
  · rw [if_neg zeros]
    exact .inl (scanPoint_fraction _ isFraction isPower ends)

end Token

/-! ## Splitting -/

variable {rest : Octets}

theorem tokens_nil : tokens [] = [] := by
  rw [tokens]

theorem tokens_openObject : tokens (123 :: rest) = .openObject :: tokens rest := by
  rw [tokens]
  rfl

theorem tokens_closeObject : tokens (125 :: rest) = .closeObject :: tokens rest := by
  rw [tokens]
  rfl

theorem tokens_openArray : tokens (91 :: rest) = .openArray :: tokens rest := by
  rw [tokens]
  rfl

theorem tokens_closeArray : tokens (93 :: rest) = .closeArray :: tokens rest := by
  rw [tokens]
  rfl

theorem tokens_comma : tokens (44 :: rest) = .comma :: tokens rest := by
  rw [tokens]
  rfl

theorem tokens_colon : tokens (58 :: rest) = .colon :: tokens rest := by
  rw [tokens]
  rfl

theorem tokens_null : tokens (spell Value.null.chars ++ rest) = .word none :: tokens rest := by
  have spelled : spell Value.null.chars ++ rest = 110 :: 117 :: 108 :: 108 :: rest := rfl
  rw [spelled, tokens]
  rfl

theorem tokens_bool (value : Bool) :
    tokens (spell (Value.bool value).chars ++ rest) = .word none :: tokens rest := by
  cases value with
  | true =>
      have spelled : spell (Value.bool true).chars ++ rest = 116 :: 114 :: 117 :: 101 :: rest := rfl
      rw [spelled, tokens]
      rfl
  | false =>
      have spelled : spell (Value.bool false).chars ++ rest =
          102 :: 97 :: 108 :: 115 :: 101 :: rest := rfl
      rw [spelled, tokens]
      rfl

/-- A string is one token, which is read as the string. -/
theorem tokens_quoted (text : String) :
    tokens (spell (Value.quoted text) ++ rest) = .string (.ok text) none :: tokens rest := by
  have split : spell (Value.quoted text) ++ rest =
      34 :: (spell (text.toList.flatMap Value.escape) ++ 34 :: rest) := by
    simp only [Value.quoted, spell_cons, spell_append, List.append_assoc]
    rfl
  have scanned : Token.scan 34 (spell (text.toList.flatMap Value.escape) ++ 34 :: rest) =
      (.string (.ok text) none, rest) := Token.scanString_quoted text rest
  rw [split, tokens, scanned]
  rfl

/-- A number is one token. If it has a zero too many in front, nothing is split after
it, and whoever reads or skips it refuses it. -/
theorem tokens_numeral {octets : Octets} (isNumeral : Token.IsNumeral octets)
    (ends : Token.Ends rest) :
    (∃ whenRead, tokens (octets ++ rest) = .number whenRead none :: tokens rest) ∨
      tokens (octets ++ rest) = [.number (some .malformed) (some .malformed)] := by
  obtain ⟨first, whole, fraction, power, isDigit, areDigits, isFraction, isPower⟩ := isNumeral
  obtain ⟨noSpace, scanned⟩ := Token.scan_digit isDigit (whole ++ (fraction ++ (power ++ rest)))
  rw [List.cons_append, List.append_assoc, List.append_assoc, tokens, noSpace, scanned]
  rcases Token.scanNumber_numeral areDigits isFraction isPower ends with ⟨whenRead, whole⟩ | refused
  · rw [whole]
    exact .inl ⟨whenRead, rfl⟩
  · rw [refused]
    exact .inr rfl

end RingCache.Json
