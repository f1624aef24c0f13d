import RingCache.Text.Utf8

/-!
# Digits

Hexadecimal digits of octets, and unsigned decimal numerals. A numeral is read
with an optional plus sign and at least one digit, and only when its value is
below a bound; anything else is no numeral.
-/

namespace RingCache.Digits

/-- The lower-case hexadecimal digit of a value below sixteen. -/
def lower (value : Nat) : Char :=
  if value < 10 then Char.ofNat (48 + value) else Char.ofNat (87 + value)

/-- The upper-case hexadecimal digit of a value below sixteen. -/
def upper (value : Nat) : Char :=
  if value < 10 then Char.ofNat (48 + value) else Char.ofNat (55 + value)

/-- The value of an octet that spells a hexadecimal digit of either case. -/
def hexValue? (octet : UInt8) : Option Nat :=
  let code := octet.toNat
  if 48 ≤ code ∧ code ≤ 57 then some (code - 48)
  else if 65 ≤ code ∧ code ≤ 70 then some (code - 55)
  else if 97 ≤ code ∧ code ≤ 102 then some (code - 87)
  else none

/-- Two lower-case digits for each octet. -/
def hex (octets : Octets) : String :=
  String.ofList (octets.flatMap fun octet => [lower (octet.toNat / 16), lower (octet.toNat % 16)])

/-- The octets that pairs of hexadecimal digits spell. -/
def unhex? : Octets -> Option Octets
  | [] => some []
  | high :: low :: rest => do
      let value := (← hexValue? high) * 16 + (← hexValue? low)
      return UInt8.ofNat value :: (← unhex? rest)
  | [_] => none

/-- Whether an octet spells a decimal digit. -/
def isDigit (octet : UInt8) : Bool :=
  48 ≤ octet && octet ≤ 57

/-- The number that decimal digits spell, most significant digit first. -/
def decimalValue (digits : Octets) : Nat :=
  digits.foldl (fun value digit => value * 10 + (digit.toNat - 48)) 0

/-- The first number that 16 bits cannot hold. -/
def limit16 : Nat := 65536

/-- The first number that 32 bits cannot hold. -/
def limit32 : Nat := 4294967296

/-- The first number that 64 bits cannot hold. -/
def limit64 : Nat := 18446744073709551616

/-- The number below `bound` that octets spell, with an optional plus sign. -/
def unsigned? (bound : Nat) (octets : Octets) : Option Nat :=
  let digits := match octets with
    | 43 :: rest => rest
    | whole => whole
  if digits.isEmpty || !digits.all isDigit || bound ≤ decimalValue digits then none
  else some (decimalValue digits)

end RingCache.Digits
