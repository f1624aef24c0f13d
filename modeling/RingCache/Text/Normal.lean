import RingCache.Text.Canonical

/-!
# Composed form of texts

Texts that are canonically equivalent have one composed form
(`Normal.compose`): every character is split as far as it goes, the marks after
each other character are arranged by their combining classes, and then pairs
are put together wherever no mark of the same class or a higher one stands
between them.
-/

namespace RingCache.Normal

/-! ## Syllables of Hangul -/

/-- The code point of the first syllable. -/
def firstSyllable : Nat := 0xAC00

/-- The code point of the first leading consonant; there are 19. -/
def firstLead : Nat := 0x1100

/-- The code point of the first vowel; there are 21. -/
def firstVowel : Nat := 0x1161

/-- The code point before the first trailing consonant; there are 27. -/
def noTail : Nat := 0x11A7

/-- The characters of a syllable. -/
def splitSyllable? (code : Nat) : Option (List Char) :=
  if firstSyllable ≤ code && code < firstSyllable + 19 * 21 * 28 then
    let index := code - firstSyllable
    let lead := Char.ofNat (firstLead + index / (21 * 28))
    let vowel := Char.ofNat (firstVowel + index / 28 % 21)
    some (if index % 28 = 0 then [lead, vowel]
      else [lead, vowel, Char.ofNat (noTail + index % 28)])
  else none

/-- The syllable of a leading consonant and a vowel, or of a syllable without a
trailing consonant and one. -/
def syllable? (first second : Nat) : Option Char :=
  if firstLead ≤ first && first < firstLead + 19 && firstVowel ≤ second &&
      second < firstVowel + 21 then
    some (Char.ofNat
      (firstSyllable + ((first - firstLead) * 21 + (second - firstVowel)) * 28))
  else if firstSyllable ≤ first && first < firstSyllable + 19 * 21 * 28 &&
      (first - firstSyllable) % 28 == 0 && noTail < second && second < noTail + 28 then
    some (Char.ofNat (first + (second - noTail)))
  else none

/-! ## Splitting -/

/-- How often the first part of a character can split again. -/
def depth : Nat := 3

/-- The characters that a character splits into in so many steps. -/
def splitIn : Nat -> Char -> List Char
  | 0, character => [character]
  | steps + 1, character =>
      match Images.image? Canonical.splittings character.toNat with
      | some (first :: rest) => splitIn steps first ++ rest
      | _ => (splitSyllable? character.toNat).getD [character]

/-- The characters that a character splits into. None below `U+00C0` splits. -/
def split (character : Char) : List Char :=
  if character.toNat < 0xC0 then [character] else splitIn depth character

/-! ## Arranging -/

/-- Put a mark into arranged characters, after the leading marks of lower
classes; other characters stay in front. -/
def place (character : Char) : List Char -> List Char
  | [] => [character]
  | next :: rest =>
      let lower := Canonical.combiningClass next
      if 0 < lower && lower < Canonical.combiningClass character then
        next :: place character rest
      else character :: next :: rest

/-- The characters with the marks of each run in the order of their classes. -/
def arrange (text : List Char) : List Char :=
  text.foldr place []

/-! ## Putting together -/

/-- The character of a pair. The second one of a pair is never below
`U+0300`. -/
def join? (first second : Char) : Option Char :=
  if second.toNat < 0x300 then none
  else
    (syllable? first.toNat second.toNat).or
      ((Canonical.pairs.find? fun pair => pair.1 == first && pair.2.1 == second).map (·.2.2))

/-- Put pairs together after a character that is no mark, with the marks passed
since it, last one first. -/
def joinFrom (start : Char) (passed : List Char) : List Char -> List Char
  | [] => start :: passed.reverse
  | character :: rest =>
      let order := Canonical.combiningClass character
      let blocked := passed.head?.any fun mark => order ≤ Canonical.combiningClass mark
      match if blocked then none else join? start character with
      | some joined => joinFrom joined passed rest
      | none =>
          if order = 0 then start :: (passed.reverse ++ joinFrom character [] rest)
          else joinFrom start (character :: passed) rest

/-- Put pairs together; marks in front of all other characters stay. -/
def joinAll : List Char -> List Char
  | [] => []
  | character :: rest =>
      if Canonical.combiningClass character = 0 then joinFrom character [] rest
      else character :: joinAll rest

/-- The composed form of a text. -/
def compose (text : List Char) : List Char :=
  joinAll (arrange (text.flatMap split))

end RingCache.Normal
