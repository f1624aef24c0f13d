import Mathlib.Data.List.Basic
import RingCache.Proofs.Text.Utf8
import RingCache.Text.Percent

/-!
# Written and read escapes

Reading the escapes of a text that was written by `Percent.encode` gives the text
back, since every escape names the octet that it was written for and a percent sign
never stands for itself. What is written holds letters, digits, `-`, `.`, `_`, `~` and
percent signs only (`isWritten`), and so nothing that means anything in a URL.
-/

namespace RingCache.Percent

/-! ## Reading what was written -/

theorem upper_ascii : ∀ value < 16, (Digits.upper value).toNat ≤ 0x7F := by decide

theorem hexValue?_upper :
    ∀ value < 16, Digits.hexValue? (UInt8.ofNat (Digits.upper value).toNat) = some value := by
  decide

/-- The octets in which an octet is written. -/
def writtenOctets (octet : UInt8) : Octets :=
  (encodeOctet octet).flatMap String.utf8EncodeChar

theorem writtenOctets_unreserved {octet : UInt8} (unreserved : isUnreserved octet) :
    writtenOctets octet = [octet] := by
  have small : octet.toNat < 0x80 := by
    simp only [isUnreserved, Bool.or_eq_true, Bool.and_eq_true, decide_eq_true_eq, beq_iff_eq]
      at unreserved
    omega
  have same : (Char.ofNat octet.toNat).toNat = octet.toNat := Utf8.toNat_charOfNat (by omega)
  rw [writtenOctets, encodeOctet, if_pos unreserved, List.flatMap_singleton,
    Utf8.encodeChar_ascii (by omega), same, UInt8.ofNat_toNat]

theorem writtenOctets_escaped {octet : UInt8} (escaped : isUnreserved octet = false) :
    writtenOctets octet =
      [37, UInt8.ofNat (Digits.upper (octet.toNat / 16)).toNat,
        UInt8.ofNat (Digits.upper (octet.toNat % 16)).toNat] := by
  have small := octet.toNat_lt
  rw [writtenOctets, encodeOctet, if_neg (by simp [escaped]), escape]
  simp only [List.flatMap_cons, List.flatMap_nil]
  rw [Utf8.encodeChar_ascii (upper_ascii _ (by omega)),
    Utf8.encodeChar_ascii (upper_ascii _ (by omega))]
  rfl

/-- An octet is read as it was written, whatever stands after it. -/
theorem octets_writtenOctets (octet : UInt8) (rest : Octets) :
    octets (writtenOctets octet ++ rest) = octet :: octets rest := by
  cases unreserved : isUnreserved octet with
  | true =>
      have noPercent : octet ≠ 37 := by
        rintro rfl
        cases unreserved
      rw [writtenOctets_unreserved unreserved, List.singleton_append, octets]
      rintro high low others rfl
      exact absurd rfl noPercent
  | false =>
      have small := octet.toNat_lt
      have spelled : octet.toNat / 16 * 16 + octet.toNat % 16 = octet.toNat := by omega
      rw [writtenOctets_escaped unreserved]
      simp only [List.cons_append, List.nil_append]
      rw [octets, hexValue?_upper _ (by omega), hexValue?_upper _ (by omega)]
      dsimp only
      rw [spelled, UInt8.ofNat_toNat]

theorem encode_encode (text : String) :
    Utf8.encode (encode text) = (Utf8.encode text).flatMap writtenOctets := by
  rw [encode, Utf8.encode, String.toList_ofList, List.flatMap_assoc]
  rfl

/-- The octets of a written text are those that it was written for. -/
theorem octets_encode (text : String) : octets (Utf8.encode (encode text)) = Utf8.encode text := by
  rw [encode_encode]
  induction Utf8.encode text with
  | nil => rfl
  | cons octet rest inductionHypothesis =>
      rw [List.flatMap_cons, octets_writtenOctets, inductionHypothesis]

/-- A written text is read as the text. -/
@[simp] theorem decode_encode (text : String) : decode (encode text) = .ok text := by
  rw [decode, octets_encode, Utf8.decode_encode]

/-- Different texts are written differently. -/
theorem encode_injective : Function.Injective encode := by
  intro one other same
  have decoded := decode_encode one
  rw [same, decode_encode] at decoded
  exact (Except.ok.inj decoded).symm

/-- Only the empty text is written as nothing. -/
theorem encode_eq_empty {text : String} : encode text = "" ↔ text = "" := by
  constructor
  · intro empty
    exact encode_injective empty
  · rintro rfl
    rfl

/-! ## Characters that are written -/

/-- Whether a character may stand in a written text. -/
def isWritten (character : Char) : Bool :=
  character.isAlphanum || ['-', '.', '_', '~', '%'].contains character

theorem isWritten_upper : ∀ value < 16, isWritten (Digits.upper value) := by decide

theorem isWritten_unreserved {octet : UInt8} (unreserved : isUnreserved octet) :
    isWritten (Char.ofNat octet.toNat) := by
  have checked : ∀ code < 256, isUnreserved (UInt8.ofNat code) → isWritten (Char.ofNat code) := by
    decide +kernel
  exact checked octet.toNat octet.toNat_lt (by rwa [UInt8.ofNat_toNat])

/-- What is written holds no other characters. -/
theorem isWritten_of_mem {text : String} {character : Char}
    (mem : character ∈ (encode text).toList) : isWritten character := by
  rw [encode, String.toList_ofList, List.mem_flatMap] at mem
  obtain ⟨octet, _, mem⟩ := mem
  have small := octet.toNat_lt
  rw [encodeOctet] at mem
  split at mem
  · rename_i unreserved
    rw [List.mem_singleton.mp mem]
    exact isWritten_unreserved unreserved
  · simp only [escape, List.mem_cons, List.not_mem_nil, or_false] at mem
    rcases mem with rfl | rfl | rfl
    · rfl
    · exact isWritten_upper _ (by omega)
    · exact isWritten_upper _ (by omega)

end RingCache.Percent
