/-!
# UTF-8 texts as octets

`Utf8.pieces` reads any octets as characters and broken parts; it is the only
reader, and the three views below are views of its answer. `decode` refuses a
text at its first broken part and says where that part starts, `lossy` writes
one replacement character for each broken part, and `isValid` asks whether
there is none.

A broken part is as long as the octets before it became impossible to
continue: the longest start of a well-formed character, or one octet that
starts no character.
-/

namespace RingCache

/-- A sequence of octets: a cached value, a message body, or a text on its way. -/
abbrev Octets := List UInt8

namespace Utf8

/-- The octets of a text. -/
def encode (text : String) : Octets :=
  text.toList.flatMap String.utf8EncodeChar

/-- A character of which the first octets have been read. -/
structure Started where
  /-- How many octets have been read. -/
  read : Nat
  /-- How many octets are still owed after the next one. -/
  owed : Nat
  /-- The least value that the next octet may have. -/
  low : Nat
  /-- The greatest value that the next octet may have. -/
  high : Nat
  /-- The bits of the code point read so far. -/
  bits : Nat
  deriving Repr, DecidableEq

/-- What the first octet of a character of two to four octets promises; the
ranges exclude overlong forms, surrogates and code points past the last one. -/
def Started.ofLead? (octet : Nat) : Option Started :=
  if 0xC2 ≤ octet ∧ octet ≤ 0xDF then some ⟨1, 0, 0x80, 0xBF, octet - 0xC0⟩
  else if octet = 0xE0 then some ⟨1, 1, 0xA0, 0xBF, 0⟩
  else if octet = 0xED then some ⟨1, 1, 0x80, 0x9F, 0xD⟩
  else if 0xE1 ≤ octet ∧ octet ≤ 0xEF then some ⟨1, 1, 0x80, 0xBF, octet - 0xE0⟩
  else if octet = 0xF0 then some ⟨1, 2, 0x90, 0xBF, 0⟩
  else if octet = 0xF4 then some ⟨1, 2, 0x80, 0x8F, 4⟩
  else if 0xF1 ≤ octet ∧ octet ≤ 0xF3 then some ⟨1, 2, 0x80, 0xBF, octet - 0xF0⟩
  else none

/-- A part of an octet sequence read as text. -/
inductive Piece where
  /-- A well-formed character. -/
  | scalar (character : Char)
  /-- So many octets which no octet after them could have completed. -/
  | broken (length : Nat)
  /-- So many octets that start a character which the end cuts off. -/
  | cut (length : Nat)
  deriving Repr, DecidableEq

/-- Read octets from between characters (`none`) or from inside one. -/
def piecesFrom : Option Started -> Octets -> List Piece
  | none, [] => []
  | some started, [] => [.cut started.read]
  | none, octet :: rest =>
      if octet.toNat < 0x80 then
        .scalar (Char.ofNat octet.toNat) :: piecesFrom none rest
      else
        match Started.ofLead? octet.toNat with
        | some started => piecesFrom (some started) rest
        | none => .broken 1 :: piecesFrom none rest
  | some started, octet :: rest =>
      if started.low ≤ octet.toNat ∧ octet.toNat ≤ started.high then
        let bits := started.bits * 0x40 + (octet.toNat - 0x80)
        match started.owed with
        | 0 => .scalar (Char.ofNat bits) :: piecesFrom none rest
        | owed + 1 => piecesFrom (some ⟨started.read + 1, owed, 0x80, 0xBF, bits⟩) rest
      else
        .broken started.read ::
          (if octet.toNat < 0x80 then
            .scalar (Char.ofNat octet.toNat) :: piecesFrom none rest
          else
            match Started.ofLead? octet.toNat with
            | some next => piecesFrom (some next) rest
            | none => .broken 1 :: piecesFrom none rest)

/-- The characters and broken parts of an octet sequence, in order. -/
def pieces (octets : Octets) : List Piece :=
  piecesFrom none octets

/-- Why octets are no text, and at which octet the broken part starts. -/
inductive Fault where
  /-- The part of this length can belong to no character. -/
  | invalid (length index : Nat)
  /-- The octets end inside a character. -/
  | incomplete (index : Nat)
  deriving Repr, DecidableEq

/-- The wording of a fault. -/
def Fault.message : Fault -> String
  | .invalid length index =>
      "invalid utf-8 sequence of " ++ toString length ++ " bytes from index " ++ toString index
  | .incomplete index => "incomplete utf-8 byte sequence from index " ++ toString index

/-- The characters of pieces none of which is broken, or the first fault;
`index` is where the pieces start. -/
def textOf (index : Nat) : List Piece -> Except Fault (List Char)
  | [] => .ok []
  | .broken length :: _ => .error (.invalid length index)
  | .cut _ :: _ => .error (.incomplete index)
  | .scalar character :: rest =>
      (textOf (index + character.utf8Size) rest).map (character :: ·)

/-- The text that octets spell, or where they first fail to spell one. -/
def decode (octets : Octets) : Except Fault String :=
  (textOf 0 (pieces octets)).map String.ofList

/-- The text that octets spell, if they spell one. -/
def decode? (octets : Octets) : Option String :=
  (decode octets).toOption

/-- Whether octets spell a text. -/
def isValid (octets : Octets) : Bool :=
  (decode octets).isOk

/-- The character that stands for a broken part. -/
def replacement : Char := '\uFFFD'

/-- The text with a replacement character for each broken part. -/
def lossy (octets : Octets) : String :=
  String.ofList ((pieces octets).map fun
    | .scalar character => character
    | .broken _ => replacement
    | .cut _ => replacement)

end Utf8

end RingCache
