import RingCache.HostName.Direction
import RingCache.HostName.Folding
import RingCache.HostName.Joining
import RingCache.Text.Punycode

/-!
# Host names

The one form in ASCII of a host name that may be written in any script
(`HostName.ascii?`). The name is folded and cut into labels at its dots. A label
beyond ASCII is written in Punycode after `xn--`; a label that starts so already
has to stand for one that could not be folded further. Each label has to be
sound (`isSound`), and all of them ordered if any character of the name runs to
the left.
-/

namespace RingCache.HostName

/-- A label of a name. -/
structure Label where
  /-- The label as it is read. -/
  plain : List Char
  /-- The label in ASCII. -/
  ascii : List Char
  deriving Repr, DecidableEq

/-- Whether a character is in ASCII. -/
def isAscii (character : Char) : Bool :=
  character.toNat < 128

/-- Characters of ASCII that no name holds. -/
def isForbidden (character : Char) : Bool :=
  character.toNat ≤ 0x20 || character.toNat == 0x7F ||
    ['#', '%', '/', ':', '<', '>', '?', '@', '[', '\\', ']', '^', '|'].contains character

/-- The longest label beyond ASCII. -/
def longestPlain : Nat := 1000

/-- The most characters that are read after `xn--`. -/
def longestCoded : Nat := 2000

/-- What labels in Punycode start with. -/
def codedMark : List Char := ['x', 'n', '-', '-']

/-- Whether a folded label may stand in a name: it holds nothing forbidden, does
not start with a mark, and is not too long to be written in Punycode. -/
def isSound (label : List Char) : Bool :=
  !label.any isForbidden && !label.head?.any Mark.isMark && Joining.areFit label &&
    (label.all isAscii || label.length ≤ longestPlain)

/-- The label that stands in Punycode after `xn--`. It is beyond ASCII, so the
text does not end in a hyphen. -/
def decode? (coded : List Char) : Option (List Char) := do
  if coded.isEmpty || coded.getLast? == some '-' || longestCoded < coded.length then none
  let plain ← Punycode.decode? coded
  if Folding.fold? plain == some plain && !plain.contains '.' && isSound plain then some plain
  else none

/-- The label of a folded text. -/
def label? (folded : List Char) : Option Label :=
  match codedMark.isPrefixOf? folded with
  | some coded => (decode? coded).map fun plain => ⟨plain, folded⟩
  | none =>
      if !isSound folded then none
      else if folded.all isAscii then some ⟨folded, folded⟩
      else some ⟨folded, codedMark ++ Punycode.encode folded⟩

/-- Whether labels are ordered, if any of their characters runs to the left. -/
def areOrdered (labels : List Label) : Bool :=
  let directions := labels.map fun label => label.plain.map Direction.ofChar
  !directions.any Direction.turns || directions.all Direction.isOrdered

/-- The form of a name in ASCII. -/
def ascii? (name : List Char) : Option (List Char) := do
  let folded ← Folding.fold? name
  let labels ← (folded.splitOn '.').mapM label?
  if areOrdered labels then return List.intercalate ['.'] (labels.map Label.ascii) else none

end RingCache.HostName
