import Mathlib.Data.List.Forall2
import RingCache.Json.Value

/-!
# How texts stand in JSON

A string is written between quotes. The quote, the backslash and the control characters below the
space are escaped in it, some of them by a letter and the others by their code, and every other
character stands for itself. `Quotes` says this of a text and what is written for it, without a
writer, and the writer gives each text its one quoted form (`quotes_iff`).
-/

namespace RingCache.Json

/-! ## Characters -/

/-- The characters that are escaped by a letter, with their letters. -/
def letters : List (Char × Char) :=
  [('"', '"'), ('\\', '\\'), ('\x08', 'b'), ('\x0c', 'f'), ('\n', 'n'), ('\r', 'r'), ('\t', 't')]

/-- Whether a character may not stand for itself in a string. -/
def IsSpecial (character : Char) : Prop :=
  character = '"' ∨ character = '\\' ∨ character.toNat < 0x20

instance (character : Char) : Decidable (IsSpecial character) :=
  inferInstanceAs (Decidable (_ ∨ _))

/-- What is written for a character in a string. -/
inductive Stands (character : Char) : List Char → Prop where
  /-- Every character that is not special is written as it is. -/
  | raw (plain : ¬ IsSpecial character) : Stands character [character]
  /-- A character with a letter is written by this letter. -/
  | letter (letter : Char) (listed : (character, letter) ∈ letters) :
      Stands character ['\\', letter]
  /-- Any other control character is written by its code. -/
  | code (high low : Nat) (unlisted : ∀ letter, (character, letter) ∉ letters)
      (coded : character.toNat = 16 * high + low) (highBound : high < 2) (lowBound : low < 16) :
      Stands character ['\\', 'u', '0', '0', Digits.lower high, Digits.lower low]

variable {character : Char}

theorem escape_of_plain (plain : ¬ IsSpecial character) :
    Value.escape character = [character] := by
  unfold Value.escape
  split <;> simp_all [IsSpecial]

theorem escape_of_listed {letter : Char} (listed : (character, letter) ∈ letters) :
    Value.escape character = ['\\', letter] := by
  simp only [letters, List.mem_cons, Prod.mk.injEq, List.not_mem_nil, or_false] at listed
  rcases listed with ⟨rfl, rfl⟩ | ⟨rfl, rfl⟩ | ⟨rfl, rfl⟩ | ⟨rfl, rfl⟩ | ⟨rfl, rfl⟩ | ⟨rfl, rfl⟩ |
    ⟨rfl, rfl⟩ <;> rfl

theorem escape_of_unlisted (control : character.toNat < 0x20)
    (unlisted : ∀ letter, (character, letter) ∉ letters) :
    Value.escape character = ['\\', 'u', '0', '0', Digits.lower (character.toNat / 16),
      Digits.lower (character.toNat % 16)] := by
  unfold Value.escape
  split
  case h_8 => exact if_pos control
  all_goals simp [letters] at unlisted

/-- A special character without a letter is a control character. -/
theorem IsSpecial.control (special : IsSpecial character)
    (unlisted : ∀ letter, (character, letter) ∉ letters) : character.toNat < 0x20 := by
  rcases special with rfl | rfl | control
  · exact absurd (by simp [letters]) (unlisted '"')
  · exact absurd (by simp [letters]) (unlisted '\\')
  · exact control

/-- Each character is written in one way. -/
theorem stands_iff {written : List Char} :
    Stands character written ↔ written = Value.escape character := by
  constructor
  · intro stands
    cases stands with
    | raw plain => exact (escape_of_plain plain).symm
    | letter letter listed => exact (escape_of_listed listed).symm
    | code high low unlisted coded highBound lowBound =>
        have isHigh : character.toNat / 16 = high := by omega
        have isLow : character.toNat % 16 = low := by omega
        rw [escape_of_unlisted (by omega) unlisted, isHigh, isLow]
  · rintro rfl
    by_cases special : IsSpecial character
    · by_cases listed : ∃ letter, (character, letter) ∈ letters
      · obtain ⟨letter, listed⟩ := listed
        rw [escape_of_listed listed]
        exact .letter letter listed
      · have unlisted : ∀ letter, (character, letter) ∉ letters := not_exists.mp listed
        -- The quote and the backslash have letters, so only controls are left.
        have control := special.control unlisted
        rw [escape_of_unlisted control unlisted]
        exact .code _ _ unlisted (by omega) (by omega) (by omega)
    · rw [escape_of_plain special]
      exact .raw special

/-! ## Texts -/

/-- What is written for the characters of a text, one after the other. -/
inductive Written : List Char → List Char → Prop where
  | nil : Written [] []
  | cons {character : Char} {front text back : List Char} (stands : Stands character front)
      (rest : Written text back) : Written (character :: text) (front ++ back)

/-- Whether a text is written so, with its quotes. -/
def Quotes (text written : String) : Prop :=
  ∃ inner, Written text.toList inner ∧ written.toList = '"' :: (inner ++ ['"'])

theorem written_iff {text written : List Char} :
    Written text written ↔ written = text.flatMap Value.escape := by
  constructor
  · intro spelled
    induction spelled with
    | nil => rfl
    | cons stands _ inductionHypothesis => simp [stands_iff.mp stands, inductionHypothesis]
  · rintro rfl
    induction text with
    | nil => exact .nil
    | cons character text inductionHypothesis =>
        exact .cons (stands_iff.mpr rfl) inductionHypothesis

/-- Each text has one quoted form. -/
theorem quotes_iff {text written : String} :
    Quotes text written ↔ written = String.ofList (Value.quoted text) := by
  simp [Quotes, written_iff, Value.quoted, ← String.toList_inj]

/-- A list of texts has one list of quoted forms. -/
theorem forall₂_quotes_iff {texts quoted : List String} :
    List.Forall₂ Quotes texts quoted ↔
      quoted = texts.map fun text => String.ofList (Value.quoted text) := by
  induction texts generalizing quoted with
  | nil => simp
  | cons text texts inductionHypothesis =>
      simp [List.forall₂_cons_left_iff, quotes_iff, inductionHypothesis]

/-- A text without special characters stands between its quotes as it is. -/
theorem quoted_of_plain {text : String} (plain : ∀ character ∈ text.toList, ¬ IsSpecial character) :
    Value.quoted text = '"' :: (text.toList ++ ['"']) := by
  have inner : ∀ characters : List Char, (∀ character ∈ characters, ¬ IsSpecial character) →
      characters.flatMap Value.escape = characters := by
    intro characters
    induction characters with
    | nil => simp
    | cons character characters inductionHypothesis =>
        intro plain
        obtain ⟨first, rest⟩ := List.forall_mem_cons.mp plain
        simp [escape_of_plain first, inductionHypothesis rest]
  rw [Value.quoted, inner text.toList plain]

/-- The elements of a list of texts are written in quotes, with commas between them. -/
theorem elementChars_strings (texts : List String) :
    Value.elementChars (texts.map .string) = [','].intercalate (texts.map Value.quoted) := by
  induction texts with
  | nil => rfl
  | cons first others inductionHypothesis =>
      cases others with
      | nil => simp [Value.elementChars, Value.chars]
      | cons next others =>
          simp_all [Value.elementChars, Value.chars, List.intercalate]

end RingCache.Json
