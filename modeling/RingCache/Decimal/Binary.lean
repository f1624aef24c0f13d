/-!
# Quotients in binary

A positive number of the form `significand * 2 ^ exponent` whose significand
has exactly 53 bits. `Binary.ofNat` and `Binary.quotient` round to the nearest
such number, and to the one with an even significand where two are as near.
Everything is computed with natural numbers, so a rounded quotient is an exact
value and not an approximation of one.
-/

namespace RingCache.Decimal

/-- A positive number with a 53-bit significand. -/
structure Binary where
  /-- At least `2 ^ 52` and below `2 ^ 53`. -/
  significand : Nat
  /-- The power of two that the significand is multiplied by. -/
  exponent : Int
  deriving Repr, DecidableEq

namespace Binary

/-- The number of bits of a significand. -/
def precision : Nat := 53

/-- The quotient rounded to the nearest whole number, half to the even one. -/
def roundDiv (numerator denominator : Nat) : Nat :=
  let whole := numerator / denominator
  let rest := numerator % denominator
  if 2 * rest < denominator then whole
  else if denominator < 2 * rest then whole + 1
  else if whole % 2 = 0 then whole
  else whole + 1

/-- A rounded significand that reached one bit more, brought back to 53 bits. -/
def normalized (significand : Nat) (exponent : Int) : Binary :=
  if significand = Nat.pow 2 precision then ⟨Nat.pow 2 (precision - 1), exponent + 1⟩
  else ⟨significand, exponent⟩

/-- The nearest number to `numerator / denominator * 2 ^ exponent`, both parts
of the fraction being positive. -/
def ofFraction (numerator denominator : Nat) (exponent : Int) : Binary :=
  -- Scaled by `2 ^ shift`, the fraction lies in `[2 ^ 52, 2 ^ 54)`.
  let shift : Int := precision + (Nat.log2 denominator : Int) - (Nat.log2 numerator : Int)
  let scaled (amount : Int) : Nat × Nat :=
    (numerator * Nat.pow 2 amount.toNat, denominator * Nat.pow 2 (-amount).toNat)
  let shift :=
    if Nat.pow 2 precision * (scaled shift).2 ≤ (scaled shift).1 then shift - 1 else shift
  let fraction := scaled shift
  normalized (roundDiv fraction.1 fraction.2) (exponent - shift)

/-- The nearest number to a positive whole number. -/
def ofNat (number : Nat) : Binary :=
  ofFraction number 1 0

/-- The nearest number to a quotient. -/
def quotient (dividend divisor : Binary) : Binary :=
  ofFraction dividend.significand divisor.significand (dividend.exponent - divisor.exponent)

end Binary

end RingCache.Decimal
