import RingCache.Proofs.Json.Skipping
import RingCache.Proofs.Text.Base64
import RingCache.Envelope
import RingCache.Report

/-!
# What a node writes, as others read it

All numbers that a node writes are made like numbers: counters are digits, and a rate
is laid out with digits around its point and after its mark. So reading an envelope
gives back what was put in (`Envelope.read_toJson`), while neither the counters of a
node nor its health is ever taken for an envelope, whatever names stand in them.
-/

namespace RingCache

namespace Json

/-- Characters that are digits. -/
def AreDigitChars (characters : List Char) : Prop :=
  ∀ character ∈ characters, character.isDigit

theorem isDigit_bounds {character : Char} (isDigit : character.isDigit) :
    48 ≤ character.toNat ∧ character.toNat ≤ 57 := by
  simpa [Char.isDigit, UInt32.le_iff_toNat_le] using isDigit

theorem spell_digit {character : Char} (isDigit : character.isDigit) :
    String.utf8EncodeChar character = [UInt8.ofNat character.toNat] ∧
      Digits.isDigit (UInt8.ofNat character.toNat) := by
  have bounds := isDigit_bounds isDigit
  refine ⟨Utf8.encodeChar_ascii (by omega), ?_⟩
  have same := Utf8.toNat_ofNat_of_lt character.toNat (by omega)
  simp [Digits.isDigit, UInt8.le_iff_toNat_le, same, bounds]

theorem areDigits_spell {characters : List Char} (areDigits : AreDigitChars characters) :
    Token.AreDigits (spell characters) := by
  intro octet mem
  obtain ⟨character, listed, isOctet⟩ := List.mem_flatMap.mp mem
  obtain ⟨spelled, isDigit⟩ := spell_digit (areDigits character listed)
  rw [spelled, List.mem_singleton] at isOctet
  exact isOctet ▸ isDigit

theorem spell_ne_nil {characters : List Char} (areDigits : AreDigitChars characters)
    (filled : characters ≠ []) : spell characters ≠ [] := by
  obtain ⟨first, rest, rfl⟩ := List.exists_cons_of_ne_nil filled
  rw [spell_cons, (spell_digit (areDigits first List.mem_cons_self)).1]
  exact List.cons_ne_nil _ _

/-- Digits, a fraction and a power make a number. -/
theorem isNumeral_spell (whole fraction power : List Char) (areDigits : AreDigitChars whole)
    (filled : whole ≠ []) (isFraction : Token.IsFraction (spell fraction))
    (isPower : Token.IsPower (spell power)) :
    Token.IsNumeral (spell (whole ++ (fraction ++ power))) := by
  obtain ⟨first, rest, rfl⟩ := List.exists_cons_of_ne_nil filled
  obtain ⟨spelled, isDigit⟩ := spell_digit (areDigits first List.mem_cons_self)
  rw [List.cons_append, spell_cons, spelled, List.singleton_append, spell_append, spell_append]
  exact .intro _ _ _ _ isDigit
    (areDigits_spell fun other mem => areDigits other (List.mem_cons_of_mem _ mem))
    isFraction isPower

theorem isFraction_spell {digits : List Char} (areDigits : AreDigitChars digits)
    (filled : digits ≠ []) : Token.IsFraction (spell ('.' :: digits)) :=
  .some _ (spell_ne_nil areDigits filled) (areDigits_spell areDigits)

/-- The digits of a number. -/
theorem areDigitChars_toString (number : Nat) : AreDigitChars (toString number).toList := by
  intro character mem
  rw [Nat.toString_eq_repr, Nat.toList_repr] at mem
  exact Nat.isDigit_of_mem_toDigits (by decide) (by decide) mem

theorem toString_ne_nil (number : Nat) : (toString number).toList ≠ [] := by
  rw [Nat.toString_eq_repr, Nat.toList_repr]
  exact Nat.toDigits_ne_nil

/-- A counter is made like a number. -/
theorem numeric_ofNat (number : Nat) : (Value.ofNat number).Numeric := by
  have numeral := isNumeral_spell (toString number).toList [] [] (areDigitChars_toString number)
    (toString_ne_nil number) .none .none
  rwa [List.append_nil, List.append_nil] at numeral

end Json

/-! ## Rates -/

namespace Decimal.Layout

open Json

variable {layout : Layout} {decimal : Shortest}

theorem areDigits_zeros (count : Nat) : AreDigitChars (List.replicate count '0') := by
  intro character mem
  rw [List.eq_of_mem_replicate mem]
  rfl

theorem isPower_exponent (isMark : layout.mark = 'e') (exponent : Int) :
    Token.IsPower (spell (layout.mark :: layout.exponentChars exponent)) := by
  have areDigits := areDigits_spell (areDigitChars_toString exponent.natAbs)
  have filled := spell_ne_nil (areDigitChars_toString exponent.natAbs) (toString_ne_nil _)
  rw [isMark, exponentChars]
  split
  · exact .some [45] _ (.inr (.inr rfl)) filled areDigits
  · split
    · exact .some [43] _ (.inr (.inl rfl)) filled areDigits
    · exact .some [] _ (.inl rfl) filled areDigits

/-- A decimal is laid out like a number. -/
theorem isNumeral_chars (isMark : layout.mark = 'e') (decimal : Shortest) :
    Token.IsNumeral (spell (layout.chars decimal)) := by
  have areDigits : AreDigitChars decimal.digitChars := areDigitChars_toString decimal.digits
  have filled : decimal.digitChars ≠ [] := toString_ne_nil decimal.digits
  have zero : AreDigitChars ['0'] := areDigits_zeros 1
  rw [chars]
  dsimp only
  generalize decimal.digitChars = digits at areDigits filled ⊢
  have areAppended : ∀ {front back : List Char}, AreDigitChars front → AreDigitChars back →
      AreDigitChars (front ++ back) := fun one other character mem =>
    (List.mem_append.mp mem).elim (one character) (other character)
  split
  · split
    · have fraction := isFraction_spell
        (areAppended (areDigits_zeros (decimal.exponent.natAbs - 1)) areDigits)
        (List.append_ne_nil_of_right_ne_nil _ filled)
      have numeral := isNumeral_spell ['0'] _ [] zero (List.cons_ne_nil _ _) fraction .none
      rwa [List.append_nil] at numeral
    · split
      · have fraction := isFraction_spell zero (List.cons_ne_nil _ _)
        have numeral := isNumeral_spell _ _ []
          (areAppended areDigits
            (areDigits_zeros (decimal.exponent.toNat + 1 - digits.length)))
          (List.append_ne_nil_of_left_ne_nil filled _) fraction .none
        rwa [List.append_nil] at numeral
      · rename_i longer
        have before : digits.take (decimal.exponent.toNat + 1) ≠ [] := by
          rw [Ne, List.take_eq_nil_iff]
          simpa using filled
        have after : digits.drop (decimal.exponent.toNat + 1) ≠ [] := by
          rw [Ne, List.drop_eq_nil_iff]
          exact longer
        have fraction := isFraction_spell
          (fun character mem => areDigits character (List.mem_of_mem_drop mem)) after
        have numeral := isNumeral_spell _ _ []
          (fun character mem => areDigits character (List.mem_of_mem_take mem)) before fraction .none
        rwa [List.append_nil] at numeral
  · have power := isPower_exponent isMark decimal.exponent
    match digits, areDigits, filled with
    | [digit], areDigits, _ =>
        exact isNumeral_spell [digit] [] _ areDigits (List.cons_ne_nil _ _) .none power
    | digit :: next :: rest, areDigits, _ =>
        have one : AreDigitChars [digit] := fun character mem =>
          areDigits character (List.mem_singleton.mp mem ▸ List.mem_cons_self)
        have fraction := isFraction_spell
          (fun character mem => areDigits character (List.mem_cons_of_mem _ mem))
          (List.cons_ne_nil next rest)
        exact isNumeral_spell [digit] _ _ one (List.cons_ne_nil _ _) fraction power

end Decimal.Layout

/-! ## Reports -/

namespace Snapshot

/-- The rate of a snapshot is made like a number. -/
theorem isNumeral_hitRate (snapshot : Snapshot) :
    Json.Token.IsNumeral (Json.spell snapshot.hitRate.toList) := by
  rw [hitRate]
  split
  · have zero : Json.AreDigitChars ['0'] := Decimal.Layout.areDigits_zeros 1
    exact Json.isNumeral_spell ['0'] ['.', '0'] [] zero (List.cons_ne_nil _ _)
      (Json.isFraction_spell zero (List.cons_ne_nil _ _)) .none
  · rw [String.toList_ofList]
    exact Decimal.Layout.isNumeral_chars rfl _

theorem numeric_toJson (snapshot : Snapshot) : snapshot.toJson.Numeric := by
  refine Json.Value.numericMembers_iff.mpr fun member mem => ?_
  rcases List.mem_append.mp mem with counter | rate
  · obtain ⟨field, _, rfl⟩ := List.mem_map.mp counter
    exact Json.numeric_ofNat field.2
  · rw [List.mem_singleton.mp rate]
    exact isNumeral_hitRate snapshot

end Snapshot

namespace Report

theorem numeric_counters (groups : List (String × Snapshot)) : (counters groups).Numeric := by
  refine ⟨Json.Value.numericMembers_iff.mpr fun member mem => ?_, trivial⟩
  obtain ⟨group, _, rfl⟩ := List.mem_map.mp mem
  exact Snapshot.numeric_toJson group.2

theorem numeric_strings (texts : List String) : (Json.Value.strings texts).Numeric := by
  refine Json.Value.numericAll_iff.mpr fun element mem => ?_
  obtain ⟨text, _, rfl⟩ := List.mem_map.mp mem
  trivial

theorem numeric_health (time : String) (groups peers : List String) :
    (health time groups peers).Numeric :=
  ⟨trivial, trivial, numeric_strings groups, numeric_strings peers, trivial⟩

end Report

/-! ## Envelopes -/

namespace Envelope

/-- An envelope is read as it was written. -/
@[simp] theorem read_toJson (envelope : Envelope) :
    read (Utf8.encode envelope.toJson.render) = .ok envelope := by
  rw [read, toJson, Json.readWhole_text]
  rfl

/-- Octets come out of an envelope as they were put in. -/
@[simp] theorem contents_ofOctets (octets : Octets) : (ofOctets octets).contents = .ok octets := by
  rw [contents, ofOctets, Base64.decode_encode]

/-- An object without the field of envelopes is no envelope. -/
theorem read_unnamed {members : List (String × Json.Value)}
    (differ : ∀ member ∈ members, member.1 ≠ "value") (numeric : (Json.Value.object members).Numeric) :
    ∃ flaw, read (Utf8.encode (Json.Value.object members).render) = .error flaw := by
  obtain ⟨flaw, refused⟩ := Json.readWhole_unnamed differ numeric
  rw [read, refused]
  exact ⟨flaw, rfl⟩

/-- The counters of a node are no envelope. -/
theorem read_counters (groups : List (String × Snapshot)) :
    ∃ flaw, read (Utf8.encode (Report.counters groups).render) = .error flaw :=
  read_unnamed (by simp) (Report.numeric_counters groups)

/-- The health of a node is no envelope. -/
theorem read_health (time : String) (groups peers : List String) :
    ∃ flaw, read (Utf8.encode (Report.health time groups peers).render) = .error flaw :=
  read_unnamed (by simp) (Report.numeric_health time groups peers)

end Envelope

end RingCache
