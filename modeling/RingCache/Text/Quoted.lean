import RingCache.Text.Digits
import RingCache.Text.Printable

/-!
# Quoted texts

A text between double quotes, as diagnostic lines show it. The quote and the
backslash are escaped, a few controls have names, and any other character that
shows nothing of its own is written by its code point.
-/

namespace RingCache.Quoted

/-- The lower-case hexadecimal digits of a number, without leading zeros. -/
def hexDigits (number : Nat) : List Char :=
  Nat.toDigits 16 number

/-- A character as it stands between quotes. -/
def character (c : Char) : List Char :=
  match c with
  | '\x00' => ['\\', '0']
  | '\t' => ['\\', 't']
  | '\r' => ['\\', 'r']
  | '\n' => ['\\', 'n']
  | '"' => ['\\', '"']
  | '\\' => ['\\', '\\']
  | c =>
      if Printable.isPlain c then [c]
      else ['\\', 'u', '\x7b'] ++ hexDigits c.toNat ++ ['\x7d']

/-- A text between double quotes. -/
def quote (text : String) : String :=
  String.ofList ('"' :: text.toList.flatMap character ++ ['"'])

end RingCache.Quoted
