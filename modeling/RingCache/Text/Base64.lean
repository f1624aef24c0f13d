import RingCache.Text.Utf8

/-!
# Base64

The standard alphabet with padding. Every octet sequence has exactly one
written form; `Base64.decode` reads the written forms and refuses everything
else. Refusals are causes with the place of the octet at fault, found in this
order: a single stray symbol at the end, the complete groups before the last
one, and then the last group symbol by symbol.
-/

namespace RingCache.Base64

/-- The symbol of a six-bit value. -/
def symbol (value : Nat) : Char :=
  if value < 26 then Char.ofNat (65 + value)
  else if value < 52 then Char.ofNat (71 + value)
  else if value < 62 then Char.ofNat (value - 4)
  else if value = 62 then '+'
  else '/'

/-- The six-bit value of a symbol. -/
def value? (octet : UInt8) : Option Nat :=
  let code := octet.toNat
  if 65 ≤ code ∧ code ≤ 90 then some (code - 65)
  else if 97 ≤ code ∧ code ≤ 122 then some (code - 71)
  else if 48 ≤ code ∧ code ≤ 57 then some (code + 4)
  else if code = 43 then some 62
  else if code = 47 then some 63
  else none

/-- The padding symbol. -/
def padding : UInt8 := 61

/-- The symbols of octets, four for each three and a padded group for the rest. -/
def symbols : Octets -> List Char
  | a :: b :: c :: rest =>
      let group := a.toNat * 0x10000 + b.toNat * 0x100 + c.toNat
      symbol (group / 0x40000) :: symbol (group / 0x1000 % 64) ::
        symbol (group / 0x40 % 64) :: symbol (group % 64) :: symbols rest
  | [a, b] =>
      let group := a.toNat * 0x100 + b.toNat
      [symbol (group / 0x400), symbol (group / 0x10 % 64), symbol (group % 0x10 * 4), '=']
  | [a] => [symbol (a.toNat / 4), symbol (a.toNat % 4 * 16), '=', '=']
  | [] => []

/-- The written form of octets. -/
def encode (octets : Octets) : String :=
  String.ofList (symbols octets)

/-- Why a text is no written form. -/
inductive Fault where
  /-- This octet stands where only a symbol, or no padding yet, may stand. -/
  | invalidSymbol (octet : UInt8) (offset : Nat)
  /-- The symbols end one after a complete group. -/
  | invalidLength (length : Nat)
  /-- The last symbol carries bits that belong to no octet. -/
  | invalidLastSymbol (octet : UInt8) (offset : Nat)
  /-- The last group is not filled up with padding. -/
  | invalidPadding
  deriving Repr, DecidableEq

/-- The wording of a fault. -/
def Fault.message : Fault -> String
  | .invalidSymbol octet offset =>
      "Invalid symbol " ++ toString octet.toNat ++ ", offset " ++ toString offset ++ "."
  | .invalidLength length => "Invalid input length: " ++ toString length
  | .invalidLastSymbol octet offset =>
      "Invalid last symbol " ++ toString octet.toNat ++ ", offset " ++ toString offset ++ "."
  | .invalidPadding => "Invalid padding"

/-- The values of symbols, or the first octet that is none; `offset` is where
they start. -/
def values (offset : Nat) : Octets -> Except Fault (List Nat)
  | [] => .ok []
  | octet :: rest =>
      match value? octet with
      | some value => (values (offset + 1) rest).map (value :: ·)
      | none => .error (.invalidSymbol octet offset)

/-- The octets of values, three for each group of four. -/
def ungroup : List Nat -> Octets
  | a :: b :: c :: d :: rest =>
      UInt8.ofNat (a * 4 + b / 16) :: UInt8.ofNat (b % 16 * 16 + c / 4) ::
        UInt8.ofNat (c % 4 * 64 + d) :: ungroup rest
  | _ => []

/-- What has been read of the last group. -/
structure Last where
  /-- The symbols, with their values. -/
  read : List (UInt8 × Nat) := []
  /-- How many octets of padding came after them. -/
  pads : Nat := 0

/-- Read the last group, whose next octet is number `place` of the group; the
group starts at `offset`. -/
def readLast (offset : Nat) : Nat -> Last -> Octets -> Except Fault Last
  | _, last, [] => .ok last
  | place, last, octet :: rest =>
      if octet = padding then
        if place < 2 then .error (.invalidSymbol octet (offset + place))
        else readLast offset (place + 1) { last with pads := last.pads + 1 } rest
      else if 0 < last.pads then
        .error (.invalidSymbol padding (offset + place - last.pads))
      else
        match value? octet with
        | none => .error (.invalidSymbol octet (offset + place))
        | some value =>
            readLast offset (place + 1) { last with read := last.read ++ [(octet, value)] } rest

/-- The octets of the last group, which starts at `offset`. -/
def closeLast (offset : Nat) (last : Last) : Except Fault Octets :=
  let length := last.read.length
  if length < 2 then .error (.invalidLength (offset + length))
  else if (length + last.pads) % 4 ≠ 0 then .error .invalidPadding
  else
    match last.read with
    | [(_, a), (octet, b)] =>
        if b % 16 ≠ 0 then .error (.invalidLastSymbol octet (offset + 1))
        else .ok [UInt8.ofNat (a * 4 + b / 16)]
    | [(_, a), (_, b), (octet, c)] =>
        if c % 4 ≠ 0 then .error (.invalidLastSymbol octet (offset + 2))
        else .ok [UInt8.ofNat (a * 4 + b / 16), UInt8.ofNat (b % 16 * 16 + c / 4)]
    | read => .ok (ungroup (read.map Prod.snd))

/-- Whether octets end with a lone octet, after complete groups, that is
neither a symbol nor padding. -/
def strayEnd? (octets : Octets) : Option Fault :=
  if octets.length % 4 = 1 then
    match octets.getLast? with
    | some octet =>
        if octet ≠ padding ∧ (value? octet).isNone then
          some (.invalidSymbol octet (octets.length - 1))
        else none
    | none => none
  else none

/-- The octets whose written form the octets of a text are. -/
def decodeOctets (octets : Octets) : Except Fault Octets :=
  match strayEnd? octets with
  | some fault => .error fault
  | none =>
      if octets.isEmpty then .ok []
      else
        let offset := (octets.length - 1) / 4 * 4
        match values 0 (octets.take offset) with
        | .error fault => .error fault
        | .ok body =>
            match readLast offset 0 {} (octets.drop offset) with
            | .error fault => .error fault
            | .ok last => (closeLast offset last).map (ungroup body ++ ·)

/-- The octets whose written form a text is. -/
def decode (text : String) : Except Fault Octets :=
  decodeOctets (Utf8.encode text)

end RingCache.Base64
