import RingCache.Decimal.Binary

/-!
# Shortest decimals

The decimal with the fewest digits that identifies a binary number: among the
decimals that round to it, one with the fewest digits, and of these the nearest
(the one with an even last digit where two are as near). The search tries one
digit, then two, and so on; on each grid only the two neighbours of the number
can qualify, so both are tested with exact arithmetic.
-/

namespace RingCache.Decimal

/-- A positive decimal `d.ddd * 10 ^ exponent`. -/
structure Shortest where
  /-- The digits, first one not zero, as a number. -/
  digits : Nat
  /-- How many digits there are. -/
  count : Nat
  /-- The power of ten of the first digit. -/
  exponent : Int
  deriving Repr, DecidableEq

namespace Shortest

/-- A positive rational number. -/
structure Ratio where
  /-- The numerator. -/
  top : Nat
  /-- The denominator, never zero. -/
  bottom : Nat

/-- Whether one ratio is at most another. -/
def Ratio.le (left right : Ratio) : Bool :=
  left.top * right.bottom ≤ right.top * left.bottom

/-- Whether one ratio is below another. -/
def Ratio.lt (left right : Ratio) : Bool :=
  left.top * right.bottom < right.top * left.bottom

/-- A quarter of a significand's unit, `quarters` times, at a power of two. -/
def quarters (quarters : Nat) (exponent : Int) : Ratio :=
  ⟨quarters * Nat.pow 2 exponent.toNat, 4 * Nat.pow 2 (-exponent).toNat⟩

/-- A number times a power of ten. -/
def tens (number : Nat) (exponent : Int) : Ratio :=
  ⟨number * Nat.pow 10 exponent.toNat, Nat.pow 10 (-exponent).toNat⟩

/-- Whether a decimal rounds to the binary number: it lies between the
midpoints to the two neighbours, or on one of them when the significand is
even. -/
def identifies (binary : Binary) (decimal : Ratio) : Bool :=
  let below := if binary.significand = Nat.pow 2 (Binary.precision - 1) then 1 else 2
  let low := quarters (4 * binary.significand - below) binary.exponent
  let high := quarters (4 * binary.significand + 2) binary.exponent
  if binary.significand % 2 = 0 then low.le decimal && decimal.le high
  else low.lt decimal && decimal.lt high

/-- The power of ten of the first digit of a ratio, searched upward from a
bound below it. -/
def leading (ratio : Ratio) : Nat -> Int -> Int
  | 0, exponent => exponent
  | steps + 1, exponent =>
      if (tens 1 (exponent + 1)).le ratio then leading ratio steps (exponent + 1) else exponent

/-- The two neighbours of a number on the grid of `10 ^ exponent`, nearer one
first. -/
def neighbours (ratio : Ratio) (exponent : Int) : List Nat :=
  let top := ratio.top * Nat.pow 10 (-exponent).toNat
  let bottom := ratio.bottom * Nat.pow 10 exponent.toNat
  let whole := top / bottom
  let rest := top % bottom
  if 2 * rest < bottom ∨ (2 * rest = bottom ∧ whole % 2 = 0) then [whole, whole + 1]
  else [whole + 1, whole]

/-- The first hit on the grids of `count`, `count + 1`, … digits. -/
def search (binary : Binary) (value : Ratio) (first : Int) : Nat -> Nat -> Shortest
  | 0, count => ⟨(neighbours value (first - count + 1)).headD 1, count, first⟩
  | steps + 1, count =>
      let grid := first - count + 1
      match (neighbours value grid).find? fun digits => identifies binary (tens digits grid) with
      | some digits =>
          if digits = Nat.pow 10 count then ⟨1, 1, first + 1⟩ else ⟨digits, count, first⟩
      | none => search binary value first steps (count + 1)

/-- The shortest decimal that identifies a binary number. -/
def ofBinary (binary : Binary) : Shortest :=
  let value := quarters (4 * binary.significand) binary.exponent
  -- Two to the power `e` lies between ten to the powers `e * 30103 / 100000` and one more.
  let estimate := (binary.exponent + 52) * 30103 / 100000 - 2
  search binary value (leading value 8 estimate) 17 1

/-- The digits of a decimal as characters. -/
def digitChars (decimal : Shortest) : List Char :=
  (toString decimal.digits).toList

end Shortest

/-- How decimals are laid out. -/
structure Layout where
  /-- First-digit exponents from here on are written with a plain point. -/
  plainFrom : Int
  /-- First-digit exponents from here on are written with an exponent. -/
  plainBelow : Int
  /-- The mark before the exponent. -/
  mark : Char
  /-- Whether an exponent above zero carries a plus sign. -/
  plus : Bool

namespace Layout

/-- An exponent after its mark. -/
def exponentChars (layout : Layout) (exponent : Int) : List Char :=
  if exponent < 0 then '-' :: (toString exponent.natAbs).toList
  else if layout.plus then '+' :: (toString exponent.natAbs).toList
  else (toString exponent.natAbs).toList

/-- The written form of a decimal. A plain form always has a digit after the
point. -/
def chars (layout : Layout) (decimal : Shortest) : List Char :=
  let digits := decimal.digitChars
  if layout.plainFrom ≤ decimal.exponent ∧ decimal.exponent < layout.plainBelow then
    if decimal.exponent < 0 then
      '0' :: '.' :: List.replicate (decimal.exponent.natAbs - 1) '0' ++ digits
    else
      let before := decimal.exponent.toNat + 1
      if digits.length ≤ before then
        digits ++ List.replicate (before - digits.length) '0' ++ ['.', '0']
      else digits.take before ++ '.' :: digits.drop before
  else
    match digits with
    | [] => []
    | [digit] => digit :: layout.mark :: exponentChars layout decimal.exponent
    | digit :: rest =>
        digit :: '.' :: rest ++ layout.mark :: exponentChars layout decimal.exponent

end Layout

end RingCache.Decimal
