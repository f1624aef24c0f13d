/-!
# Blank characters

The characters with the Unicode property White_Space, and the removal of them
from the two ends of a text. `Blank.trim` keeps blanks inside the text.
-/

namespace RingCache.Blank

/-- Whether a character has the property White_Space. -/
def isBlank (character : Char) : Bool :=
  let code := character.toNat
  (0x09 ≤ code && code ≤ 0x0D) || code == 0x20 || code == 0x85 || code == 0xA0 ||
    code == 0x1680 || (0x2000 ≤ code && code ≤ 0x200A) || code == 0x2028 ||
    code == 0x2029 || code == 0x202F || code == 0x205F || code == 0x3000

/-- Drop the characters that satisfy `drop` from the right end. -/
def trimRight (drop : Char -> Bool) (characters : List Char) : List Char :=
  (characters.reverse.dropWhile drop).reverse

/-- Drop the characters that satisfy `drop` from both ends. -/
def trimBoth (drop : Char -> Bool) (characters : List Char) : List Char :=
  trimRight drop (characters.dropWhile drop)

/-- A text without the blanks at its ends. -/
def trim (text : String) : String :=
  String.ofList (trimBoth isBlank text.toList)

end RingCache.Blank
