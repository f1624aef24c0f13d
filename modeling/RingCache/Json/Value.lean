import RingCache.Text.Digits

/-!
# JSON values and their compact text

`Value.chars` writes a value without blanks, the members of an object in the
order in which they are given. A string escapes the quote, the backslash and
the control characters below the space, and nothing else. A number is given by
its text, so that counters of any size and rates are written as they are.
-/

namespace RingCache.Json

/-- A JSON value; the members of an object keep their order. -/
inductive Value where
  /-- The value `null`. -/
  | null
  /-- One of the two truth values. -/
  | bool (value : Bool)
  /-- A number, given by its text. -/
  | number (text : String)
  /-- A string. -/
  | string (text : String)
  /-- A list of values. -/
  | array (elements : List Value)
  /-- Named values. -/
  | object (members : List (String × Value))
  deriving Inhabited

namespace Value

/-- A number without sign, point or exponent. -/
def ofNat (number : Nat) : Value :=
  .number (toString number)

/-- A list of strings. -/
def strings (texts : List String) : Value :=
  .array (texts.map .string)

/-- A value, or `null` in its absence. -/
def ofOption (value : Option Value) : Value :=
  value.getD .null

/-- A character as it stands in a string. -/
def escape (character : Char) : List Char :=
  match character with
  | '"' => ['\\', '"']
  | '\\' => ['\\', '\\']
  | '\x08' => ['\\', 'b']
  | '\x0c' => ['\\', 'f']
  | '\n' => ['\\', 'n']
  | '\r' => ['\\', 'r']
  | '\t' => ['\\', 't']
  | character =>
      if character.toNat < 0x20 then
        ['\\', 'u', '0', '0', Digits.lower (character.toNat / 16),
          Digits.lower (character.toNat % 16)]
      else [character]

/-- A string with its quotes. -/
def quoted (text : String) : List Char :=
  '"' :: (text.toList.flatMap escape ++ ['"'])

mutual

/-- The compact text of a value. -/
def chars : Value -> List Char
  | .null => ['n', 'u', 'l', 'l']
  | .bool true => ['t', 'r', 'u', 'e']
  | .bool false => ['f', 'a', 'l', 's', 'e']
  | .number text => text.toList
  | .string text => quoted text
  | .array elements => '[' :: (elementChars elements ++ [']'])
  | .object members => '\x7b' :: (memberChars members ++ ['\x7d'])

/-- The texts of list elements, with commas between them. -/
def elementChars : List Value -> List Char
  | [] => []
  | [element] => chars element
  | element :: next :: rest => chars element ++ ',' :: elementChars (next :: rest)

/-- The texts of object members, with commas between them. -/
def memberChars : List (String × Value) -> List Char
  | [] => []
  | [(name, value)] => quoted name ++ ':' :: chars value
  | (name, value) :: next :: rest =>
      quoted name ++ ':' :: (chars value ++ ',' :: memberChars (next :: rest))

end

/-- The compact text of a value as a string. -/
def render (value : Value) : String :=
  String.ofList value.chars

end Value

end RingCache.Json
