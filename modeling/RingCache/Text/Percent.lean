import RingCache.Text.Digits

/-!
# Percent encoding

`Percent.encode` writes every octet of a text but the unreserved ones as `%`
and two upper-case digits. `Percent.octets` reads every well-formed escape once
and keeps everything else as it stands, so a percent sign that starts no escape
is itself; `Percent.decode` asks the octets to be a text.
-/

namespace RingCache.Percent

/-- Letters, digits and `-`, `.`, `_`, `~` are written as they are. -/
def isUnreserved (octet : UInt8) : Bool :=
  let code := octet.toNat
  (48 ≤ code && code ≤ 57) || (65 ≤ code && code ≤ 90) || (97 ≤ code && code ≤ 122) ||
    code == 45 || code == 46 || code == 95 || code == 126

/-- The escape of one octet. -/
def escape (octet : UInt8) : List Char :=
  ['%', Digits.upper (octet.toNat / 16), Digits.upper (octet.toNat % 16)]

/-- The written form of one octet. -/
def encodeOctet (octet : UInt8) : List Char :=
  if isUnreserved octet then [Char.ofNat octet.toNat] else escape octet

/-- A text with all but its unreserved octets escaped. -/
def encode (text : String) : String :=
  String.ofList ((Utf8.encode text).flatMap encodeOctet)

/-- The octets with every well-formed escape replaced by the octet it names. -/
def octets : Octets -> Octets
  | 37 :: high :: low :: rest =>
      match Digits.hexValue? high, Digits.hexValue? low with
      | some h, some l => UInt8.ofNat (h * 16 + l) :: octets rest
      | _, _ => 37 :: octets (high :: low :: rest)
  | octet :: rest => octet :: octets rest
  | [] => []

/-- The text that a percent-encoded text stands for, or why its octets are no
text. -/
def decode (text : String) : Except Utf8.Fault String :=
  Utf8.decode (octets (Utf8.encode text))

end RingCache.Percent
