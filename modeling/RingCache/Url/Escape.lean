import RingCache.Text.Percent

/-!
# Escapes in URLs

Which characters stand for themselves in which part of a URL. Controls and
characters beyond ASCII never do; the further ones differ from part to part. A
percent sign is left as it is, whether it starts an escape or not.
-/

namespace RingCache.Escape

/-- Write the controls, the characters beyond ASCII and those that `also` holds
for as escapes of their octets. -/
def all (also : Char -> Bool) (characters : List Char) : List Char :=
  characters.flatMap fun character =>
    if character.toNat < 0x20 || 0x7E < character.toNat || also character then
      (String.utf8EncodeChar character).flatMap Percent.escape
    else [character]

/-- Characters that are escaped in a fragment. -/
def inFragment (character : Char) : Bool :=
  [' ', '"', '<', '>', '\x60'].contains character

/-- Characters that are escaped in a path. -/
def inPath (character : Char) : Bool :=
  inFragment character || ['#', '?', '\x7b', '\x7d'].contains character

/-- Characters that are escaped in the name and the password of a user. -/
def inUser (character : Char) : Bool :=
  inPath character ||
    ['/', ':', ';', '=', '@', '[', '\\', ']', '^', '|'].contains character

/-- Characters that are escaped in a query. -/
def inQuery (web : Bool) (character : Char) : Bool :=
  [' ', '"', '#', '<', '>'].contains character || (web && character == '\'')

end RingCache.Escape
