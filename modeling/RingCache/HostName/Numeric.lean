import RingCache.Text.Digits

/-!
# Numeric hosts

Hosts that are numbers: IPv4 addresses, whose parts may be written in three
bases and may be fewer than four, and IPv6 addresses. Each has one normal form,
four decimal numbers with dots or eight hexadecimal ones with colons, the first
longest run of zeros left out.
-/

namespace RingCache.Numeric

/-- The number that a part of an IPv4 address spells: hexadecimal after `0x`,
octal after a zero, else decimal. -/
def ipv4Part? (part : List Char) : Option Nat :=
  let value? (base : Nat) (digits : List Char) : Option Nat :=
    digits.foldl (fun value digit => do
      let place ← Digits.hexValue? (UInt8.ofNat digit.toNat)
      if place < base ∧ digit.toNat < 0x80 then return (← value) * base + place else none) (some 0)
  match part with
  | [] => none
  | '0' :: 'x' :: digits => value? 16 digits
  | '0' :: 'X' :: digits => value? 16 digits
  | '0' :: first :: digits => value? 8 (first :: digits)
  | digits => value? 10 digits

/-- The parts of a dotted name, without an empty last one. -/
def dottedParts (host : List Char) : List (List Char) :=
  let parts := host.splitOn '.'
  match parts.getLast? with
  | some [] => if 1 < parts.length then parts.dropLast else parts
  | _ => parts

/-- Whether a host has a number as its last part, so that it has to be an IPv4
address. -/
def endsInNumber (host : List Char) : Bool :=
  match (dottedParts host).getLast? with
  | none => false
  | some part =>
      (!part.isEmpty && part.all Char.isDigit) ||
        (['0', 'x'].isPrefixOf (part.map Char.toLower) && (ipv4Part? part).isSome)

/-- The value of the leading parts of an IPv4 address, each one below 256. -/
def ipv4Lead? : List Nat -> Option Nat
  | [] => some 0
  | part :: rest => do
      if part < 256 then return part * Nat.pow 256 rest.length + (← ipv4Lead? rest) else none

/-- The four numbers of an IPv4 address with dots between them. -/
def ipv4Text (address : Nat) : String :=
  String.intercalate "."
    ([3, 2, 1, 0].map fun place => toString (address / Nat.pow 256 place % 256))

/-- The normal form of an IPv4 address. -/
def ipv4? (host : List Char) : Option String := do
  let parts ← (dottedParts host).mapM ipv4Part?
  let last ← parts.getLast?
  let lead := parts.dropLast
  if 3 < lead.length then none
  let room := 4 - lead.length
  if Nat.pow 256 room ≤ last then none
  return ipv4Text ((← ipv4Lead? lead) * Nat.pow 256 room + last)

/-- The number of up to four hexadecimal digits. -/
def ipv6Piece? (piece : List Char) : Option Nat :=
  if piece.isEmpty || 4 < piece.length then none
  else piece.foldl (fun value digit => do
    if 0x7F < digit.toNat then none
    return (← value) * 16 + (← Digits.hexValue? (UInt8.ofNat digit.toNat))) (some 0)

/-- The two numbers of an IPv4 address in decimal at the end of an IPv6 one. -/
def ipv6Tail? (piece : List Char) : Option (List Nat) := do
  let parts := piece.splitOn '.'
  if parts.length != 4 then none
  let numbers ← parts.mapM fun part => do
    let number ← Digits.unsigned? 256 (part.map fun digit => UInt8.ofNat digit.toNat)
    if part.all Char.isDigit && (part.length == 1 || part.head? != some '0') then some number
    else none
  match numbers with
  | [a, b, c, d] => return [a * 256 + b, c * 256 + d]
  | _ => none

/-- The numbers of colon-separated pieces; the last one may be an IPv4 address
if `final` holds. -/
def ipv6Pieces? (final : Bool) (text : List Char) : Option (List Nat) :=
  if text.isEmpty then some []
  else
    let pieces := text.splitOn ':'
    let lead := pieces.dropLast.mapM ipv6Piece?
    match pieces.getLast? with
    | none => none
    | some last =>
        let tail := if final && last.contains '.' then ipv6Tail? last
          else (ipv6Piece? last).map fun number => [number]
        return (← lead) ++ (← tail)

/-- Split a text at the first double colon. -/
def splitGap : List Char -> List Char × Option (List Char)
  | [] => ([], none)
  | ':' :: ':' :: rest => ([], some rest)
  | character :: rest =>
      let split := splitGap rest
      (character :: split.1, split.2)

/-- The eight numbers of an IPv6 address. -/
def ipv6Numbers? (text : List Char) : Option (List Nat) := do
  match splitGap text with
  | (whole, none) =>
      let numbers ← ipv6Pieces? true whole
      if numbers.length = 8 then return numbers else none
  | (front, some back) =>
      let front ← ipv6Pieces? false front
      let back ← ipv6Pieces? true back
      if 7 < front.length + back.length then none
      return front ++ List.replicate (8 - front.length - back.length) 0 ++ back

/-- The length of the run of zeros at the front of numbers. -/
def zeroRun (numbers : List Nat) : Nat :=
  (numbers.takeWhile (· == 0)).length

/-- Where the first longest run of at least two zeros starts, and its length. -/
def longestGap (numbers : List Nat) : Nat × Nat :=
  (List.range numbers.length).foldl (fun best start =>
    let run := zeroRun (numbers.drop start)
    if best.2 < run ∧ 1 < run then (start, run) else best) (0, 0)

/-- Numbers in hexadecimal with colons between them. -/
def hexPieces (numbers : List Nat) : String :=
  String.intercalate ":" (numbers.map fun number => String.ofList (Nat.toDigits 16 number))

/-- The normal form of an IPv6 address. -/
def ipv6Text (numbers : List Nat) : String :=
  let gap := longestGap numbers
  if gap.2 = 0 then hexPieces numbers
  else hexPieces (numbers.take gap.1) ++ "::" ++ hexPieces (numbers.drop (gap.1 + gap.2))

/-- The normal form of an IPv6 address. -/
def ipv6? (text : List Char) : Option String :=
  (ipv6Numbers? text).map ipv6Text

end RingCache.Numeric
