import RingCache.Decimal.Binary
import RingCache.Text.Digits

/-!
# JSON tokens

`tokens` splits octets into the tokens of JSON. A reader that wants a token's
value checks more than one that skips it: a skipped string may hold octets that
are no text, a skipped number may be of any size. So a token carries both
verdicts, and the octets are split only once. Nothing is split after a token
that even skipping refuses.
-/

namespace RingCache.Json

/-- What is wrong with octets that should be a certain JSON value. -/
inductive Flaw where
  /-- The octets break the grammar. -/
  | malformed
  /-- The octets are a JSON value of the wrong shape. -/
  | mismatched
  /-- The octets end before the value does. -/
  | unfinished
  deriving Repr, DecidableEq

/-- A token, with what is wrong with it when it is read and when it is skipped. -/
inductive Token where
  /-- The opening brace of an object. -/
  | openObject
  /-- The closing brace of an object. -/
  | closeObject
  /-- The opening bracket of a list. -/
  | openArray
  /-- The closing bracket of a list. -/
  | closeArray
  /-- A comma. -/
  | comma
  /-- A colon. -/
  | colon
  /-- One of the three words, or the start of one. -/
  | word (flaw : Option Flaw)
  /-- A number. -/
  | number (whenRead whenSkipped : Option Flaw)
  /-- A string. -/
  | string (whenRead : Except Flaw String) (whenSkipped : Option Flaw)
  /-- An octet that starts no token. -/
  | stray

/-- Whether an octet may stand between tokens. -/
def isSpace (octet : UInt8) : Bool :=
  octet == 32 || octet == 9 || octet == 10 || octet == 13

namespace Token

/-- Whether a token ends the splitting: it is refused even when skipped. -/
def isFinal : Token -> Bool
  | .word flaw => flaw.isSome
  | .number _ whenSkipped => whenSkipped.isSome
  | .string _ whenSkipped => whenSkipped.isSome
  | .stray => true
  | _ => false

/-! ## Words -/

/-- Read the rest of a word. -/
def scanWord : Octets -> Octets -> Token × Octets
  | [], rest => (.word none, rest)
  | _ :: _, [] => (.word (some .unfinished), [])
  | expected :: more, octet :: rest =>
      if octet = expected then scanWord more rest else (.word (some .malformed), [])

/-! ## Strings -/

/-- What a string that is being read stands for so far. -/
inductive Gathered where
  /-- These octets, last one first. -/
  | text (reversed : Octets)
  /-- These octets and the first half of a surrogate pair. -/
  | half (reversed : Octets) (unit : Nat)
  /-- No text, because of a surrogate without its other half. -/
  | refused

namespace Gathered

/-- Add an octet. -/
def push (octet : UInt8) : Gathered -> Gathered
  | .text reversed => .text (octet :: reversed)
  | _ => .refused

/-- Add a code unit given by an escape. -/
def pushUnit (unit : Nat) : Gathered -> Gathered
  | .text reversed =>
      if 0xD800 ≤ unit ∧ unit ≤ 0xDBFF then .half reversed unit
      else if 0xDC00 ≤ unit ∧ unit ≤ 0xDFFF then .refused
      else .text ((String.utf8EncodeChar (Char.ofNat unit)).reverse ++ reversed)
  | .half reversed first =>
      if 0xDC00 ≤ unit ∧ unit ≤ 0xDFFF then
        let code := 0x10000 + (first - 0xD800) * 0x400 + (unit - 0xDC00)
        .text ((String.utf8EncodeChar (Char.ofNat code)).reverse ++ reversed)
      else .refused
  | .refused => .refused

/-- The text of a string that ends here. -/
def close : Gathered -> Except Flaw String
  | .text reversed => ((Utf8.decode reversed.reverse).toOption).elim (.error .malformed) .ok
  | _ => .error .malformed

/-- The token of a string that is broken off by a flaw; a half pair spoiled
before that is what a reader meets first. -/
def broken (flaw : Flaw) : Gathered -> Token × Octets
  | .refused => (.string (.error .malformed) (some flaw), [])
  | _ => (.string (.error flaw) (some flaw), [])

end Gathered

/-- The octet that a one-letter escape names. -/
def escaped? (octet : UInt8) : Option UInt8 :=
  if octet = 34 ∨ octet = 92 ∨ octet = 47 then some octet
  else if octet = 98 then some 8
  else if octet = 102 then some 12
  else if octet = 110 then some 10
  else if octet = 114 then some 13
  else if octet = 116 then some 9
  else none

/-- The code unit that four hexadecimal digits spell. -/
def unit? (a b c d : UInt8) : Option Nat := do
  return (((← Digits.hexValue? a) * 16 + (← Digits.hexValue? b)) * 16 +
    (← Digits.hexValue? c)) * 16 + (← Digits.hexValue? d)

/-- Read the rest of a string. -/
def scanString (gathered : Gathered) : Octets -> Token × Octets
  | [] => gathered.broken .unfinished
  | 34 :: rest => (.string gathered.close none, rest)
  | 92 :: 117 :: a :: b :: c :: d :: rest =>
      match unit? a b c d with
      | some unit => scanString (gathered.pushUnit unit) rest
      | none => gathered.broken .malformed
  | 92 :: 117 :: _ => gathered.broken .unfinished
  | 92 :: letter :: rest =>
      match escaped? letter with
      | some octet => scanString (gathered.push octet) rest
      | none => gathered.broken .malformed
  | [92] => gathered.broken .unfinished
  | octet :: rest =>
      if octet < 32 then gathered.broken .malformed
      else scanString (gathered.push octet) rest

/-! ## Numbers -/

/-- A number read digit by digit. -/
structure Numeral where
  /-- The digits before the point. -/
  whole : Octets
  /-- The digits after the point. -/
  fraction : Octets := []
  /-- Whether the exponent has a minus sign. -/
  negative : Bool := false
  /-- The digits of the exponent. -/
  exponent : Octets := []

namespace Numeral

/-- Take digits into a significand below `2 ^ 64`, and count those from the
first that does not fit. -/
def keep (significand : Nat) : Octets -> Nat × Nat
  | [] => (significand, 0)
  | digit :: rest =>
      let next := significand * 10 + (digit.toNat - 48)
      if next < Digits.limit64 then keep next rest else (significand, rest.length + 1)

/-- Whether a significand times a power of ten is too large for a binary
number of eleven exponent bits, the product being rounded once. -/
def overflows (significand exponent : Nat) : Bool :=
  if significand = 0 then false
  else if 308 < exponent then true
  else
    let factor := Decimal.Binary.ofNat (Nat.pow 10 exponent)
    let number := Decimal.Binary.ofNat significand
    let product := Decimal.Binary.ofFraction (number.significand * factor.significand) 1
      (number.exponent + factor.exponent)
    971 < product.exponent

/-- Whether a numeral is beyond the range of numbers. -/
def isTooLarge (numeral : Numeral) : Bool :=
  let (significand, dropped) := keep 0 numeral.whole
  let (significand, left) := keep significand numeral.fraction
  let shift : Int := (dropped : Int) - ((numeral.fraction.length - left : Nat) : Int)
  let power := Digits.decimalValue numeral.exponent
  if 2147483648 ≤ power then significand ≠ 0 && !numeral.negative
  else
    let exponent := if numeral.negative then shift - power else shift + power
    if exponent < 0 then false else overflows significand exponent.toNat

end Numeral

/-- The token of a number that lacks a digit before these octets. -/
def missingDigit : Octets -> Token × Octets
  | [] => (.number (some .unfinished) (some .malformed), [])
  | _ :: _ => (.number (some .malformed) (some .malformed), [])

/-- The token of a complete number. -/
def closeNumber (numeral : Numeral) (rest : Octets) : Token × Octets :=
  (.number (if numeral.isTooLarge then some .malformed else none) none, rest)

/-- Whether an octet marks an exponent. -/
def isMark (octet : UInt8) : Bool :=
  octet == 101 || octet == 69

/-- Read the digits of an exponent. -/
def scanPower (numeral : Numeral) (octets : Octets) : Token × Octets :=
  let digits := octets.takeWhile Digits.isDigit
  let rest := octets.dropWhile Digits.isDigit
  if digits.isEmpty then missingDigit rest
  else closeNumber { numeral with exponent := digits } rest

/-- Read the exponent of a number, from the sign on. -/
def scanExponent (numeral : Numeral) : Octets -> Token × Octets
  | 45 :: rest => scanPower { numeral with negative := true } rest
  | 43 :: rest => scanPower numeral rest
  | octets => scanPower numeral octets

/-- Read an exponent, if there is one. -/
def scanMark (numeral : Numeral) : Octets -> Token × Octets
  | octet :: rest => if isMark octet then scanExponent numeral rest
      else closeNumber numeral (octet :: rest)
  | [] => closeNumber numeral []

/-- Read what follows the digits before the point. -/
def scanPoint (numeral : Numeral) : Octets -> Token × Octets
  | 46 :: octets =>
      let digits := octets.takeWhile Digits.isDigit
      let rest := octets.dropWhile Digits.isDigit
      if digits.isEmpty then missingDigit rest
      else scanMark { numeral with fraction := digits } rest
  | octets => scanMark numeral octets

/-- Read a number from its first digit on. -/
def scanNumber (first : UInt8) (octets : Octets) : Token × Octets :=
  let digits := octets.takeWhile Digits.isDigit
  let rest := octets.dropWhile Digits.isDigit
  if first = 48 ∧ digits ≠ [] then (.number (some .malformed) (some .malformed), [])
  else scanPoint { whole := first :: digits } rest

/-- Read a number after its minus sign. -/
def scanNegative : Octets -> Token × Octets
  | [] => missingDigit []
  | first :: octets =>
      if Digits.isDigit first then scanNumber first octets else missingDigit (first :: octets)

/-! ## All tokens -/

/-- The token that an octet starts, and the octets after it. -/
def scan (octet : UInt8) (rest : Octets) : Token × Octets :=
  match octet with
  | 123 => (.openObject, rest)
  | 125 => (.closeObject, rest)
  | 91 => (.openArray, rest)
  | 93 => (.closeArray, rest)
  | 44 => (.comma, rest)
  | 58 => (.colon, rest)
  | 34 => scanString (.text []) rest
  | 110 => scanWord [117, 108, 108] rest
  | 116 => scanWord [114, 117, 101] rest
  | 102 => scanWord [97, 108, 115, 101] rest
  | 45 => scanNegative rest
  | octet => if Digits.isDigit octet then scanNumber octet rest else (.stray, [])

theorem length_scanWord (expected rest : Octets) :
    (scanWord expected rest).2.length ≤ rest.length := by
  induction expected generalizing rest with
  | nil => exact Nat.le_refl _
  | cons octet expected ih =>
      cases rest with
      | nil => exact Nat.le_refl _
      | cons first rest =>
          unfold scanWord
          split
          · exact Nat.le_succ_of_le (ih rest)
          · exact Nat.zero_le _

theorem length_broken (gathered : Gathered) (flaw : Flaw) : (gathered.broken flaw).2 = [] := by
  cases gathered <;> rfl

theorem length_scanString (gathered : Gathered) (octets : Octets) :
    (scanString gathered octets).2.length ≤ octets.length := by
  fun_induction scanString gathered octets <;> simp_all [length_broken] <;> omega

theorem length_missingDigit (octets : Octets) :
    (missingDigit octets).2.length ≤ octets.length := by
  cases octets <;> simp [missingDigit]

theorem length_dropDigits (octets : Octets) :
    (octets.dropWhile Digits.isDigit).length ≤ octets.length :=
  (List.dropWhile_sublist _).length_le

theorem length_scanPower (numeral : Numeral) (octets : Octets) :
    (scanPower numeral octets).2.length ≤ octets.length := by
  unfold scanPower
  dsimp only
  split
  · exact Nat.le_trans (length_missingDigit _) (length_dropDigits _)
  · exact length_dropDigits _

theorem length_scanExponent (numeral : Numeral) (octets : Octets) :
    (scanExponent numeral octets).2.length ≤ octets.length := by
  unfold scanExponent
  split
  · exact Nat.le_trans (length_scanPower _ _) (Nat.le_succ _)
  · exact Nat.le_trans (length_scanPower _ _) (Nat.le_succ _)
  · exact length_scanPower _ _

theorem length_scanMark (numeral : Numeral) (octets : Octets) :
    (scanMark numeral octets).2.length ≤ octets.length := by
  unfold scanMark
  split
  · split
    · exact Nat.le_trans (length_scanExponent _ _) (Nat.le_succ _)
    · exact Nat.le_refl _
  · exact Nat.le_refl _

theorem length_scanPoint (numeral : Numeral) (octets : Octets) :
    (scanPoint numeral octets).2.length ≤ octets.length := by
  unfold scanPoint
  split
  · dsimp only
    split
    · exact Nat.le_trans (length_missingDigit _)
        (Nat.le_trans (length_dropDigits _) (Nat.le_succ _))
    · exact Nat.le_trans (length_scanMark _ _) (Nat.le_trans (length_dropDigits _) (Nat.le_succ _))
  · exact length_scanMark _ _

theorem length_scanNumber (first : UInt8) (octets : Octets) :
    (scanNumber first octets).2.length ≤ octets.length := by
  unfold scanNumber
  dsimp only
  split
  · exact Nat.zero_le _
  · exact Nat.le_trans (length_scanPoint _ _) (length_dropDigits _)

theorem length_scanNegative (octets : Octets) :
    (scanNegative octets).2.length ≤ octets.length := by
  unfold scanNegative
  split
  · exact length_missingDigit _
  · split
    · exact Nat.le_trans (length_scanNumber _ _) (Nat.le_succ _)
    · exact length_missingDigit _

/-- A token is never longer than the octets that are left. -/
theorem length_scan (octet : UInt8) (rest : Octets) :
    (scan octet rest).2.length ≤ rest.length := by
  unfold scan
  split <;> first
    | exact Nat.le_refl _
    | exact length_scanString _ _
    | exact length_scanWord _ _
    | exact length_scanNegative _
    | (split
       · exact length_scanNumber _ _
       · exact Nat.zero_le _)

end Token

/-- The tokens of octets, up to the first one that even skipping refuses. -/
def tokens : Octets -> List Token
  | [] => []
  | octet :: rest =>
      if isSpace octet then tokens rest
      else
        let scanned := Token.scan octet rest
        if scanned.1.isFinal then [scanned.1]
        else scanned.1 :: tokens scanned.2
  termination_by octets => octets.length
  decreasing_by
    · simp
    · exact Nat.lt_succ_of_le (Token.length_scan octet rest)

end RingCache.Json
