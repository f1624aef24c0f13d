/-!
# Punycode

Labels of host names beyond ASCII, written in ASCII: first the ASCII characters
of the label, then the places of the others as variable-length numbers, in the
order of their code points. `Punycode.encode` writes a label and
`Punycode.decode?` reads one. Characters are taken as they are, without mapping
one to another.
-/

namespace RingCache.Punycode

/-- The digit of a value below 36. -/
def digit (value : Nat) : Char :=
  if value < 26 then Char.ofNat (97 + value) else Char.ofNat (22 + value)

/-- From which value on a digit at a place means that another one follows. -/
def threshold (place bias : Nat) : Nat :=
  if place ≤ bias then 1 else if bias + 26 ≤ place then 26 else place - bias

theorem threshold_pos (place bias : Nat) : 0 < threshold place bias := by
  unfold threshold
  split
  · omega
  · split <;> omega

theorem threshold_le (place bias : Nat) : threshold place bias ≤ 26 := by
  unfold threshold
  split
  · omega
  · split <;> omega

/-- The digits of a number, from a place on. -/
def digits (bias place number : Nat) : List Char :=
  let limit := threshold place bias
  if number < limit then [digit number]
  else digit (limit + (number - limit) % (36 - limit)) ::
    digits bias (place + 36) ((number - limit) / (36 - limit))
  termination_by number
  decreasing_by
    have positive := threshold_pos place bias
    have bounded := threshold_le place bias
    exact Nat.lt_of_le_of_lt (Nat.div_le_self _ _) (by omega)

/-- Bring a step below 456, and add 36 for each division this takes. -/
def damp (step bias : Nat) : Nat :=
  if 455 < step then damp (step / 35) (bias + 36) else bias + 36 * step / (step + 38)
  termination_by step

/-- The bias after a step among so many written characters. -/
def adapt (step written : Nat) (first : Bool) : Nat :=
  let step := if first then step / 700 else step / 2
  damp (step + step / written) 0

/-- What has been written of a label. -/
structure Progress where
  /-- The digits, last one first. -/
  reversed : List Char
  /-- The places passed since the last written character. -/
  step : Nat
  /-- The bias of the next number. -/
  bias : Nat
  /-- How many characters have been written. -/
  written : Nat

/-- Pass a character while those with code point `code` are being written. -/
def pass (basics code : Nat) (progress : Progress) (character : Char) : Progress :=
  if character.toNat < code then { progress with step := progress.step + 1 }
  else if character.toNat = code then
    { reversed := (digits progress.bias 36 progress.step).reverse ++ progress.reversed
      step := 0
      bias := adapt progress.step (progress.written + 1) (progress.written == basics)
      written := progress.written + 1 }
  else progress

/-- Write all characters of a label with these code points, ascending, the
places before `start` being passed. -/
def writeAll (label : List Char) (basics : Nat) : Nat -> List Nat -> Progress -> Progress
  | _, [], progress => progress
  | start, code :: rest, progress =>
      let moved := { progress with
        step := progress.step + (code - start) * (progress.written + 1) }
      let passed := label.foldl (pass basics code) moved
      writeAll label basics (code + 1) rest { passed with step := passed.step + 1 }

/-- The distinct code points beyond ASCII of a label, ascending. -/
def codes (label : List Char) : List Nat :=
  ((label.map Char.toNat).filter (127 < ·)).mergeSort.eraseDups

/-- A label in ASCII. -/
def encode (label : List Char) : List Char :=
  let basics := label.filter fun character => character.toNat < 128
  let lead := if basics.isEmpty then [] else basics ++ ['-']
  let written := writeAll label basics.length 128 (codes label) ⟨[], 0, 72, basics.length⟩
  lead ++ written.reversed.reverse

/-! ## Reading -/

/-- The value of a digit, in either case of letters. -/
def value? (digit : Char) : Option Nat :=
  if digit.isDigit then some (digit.toNat - 48 + 26)
  else if digit.isAlpha then some (digit.toLower.toNat - 97)
  else none

/-- The first number that does not fit into 32 bits. -/
def bound : Nat := 4294967296

/-- What has been read of a label. -/
structure Reading where
  /-- The characters so far. -/
  label : List Char
  /-- The code point of the last character that was put in. -/
  code : Nat := 128
  /-- How far the number has come that is being read. -/
  step : Nat := 0
  /-- What that number started from. -/
  start : Nat := 0
  /-- The bias of that number. -/
  bias : Nat := 72
  /-- The place of its next digit. -/
  place : Nat := 36
  /-- What its next digit counts. -/
  weight : Nat := 1

/-- Put the character in that a number stands for. -/
def Reading.putIn? (reading : Reading) : Option Reading :=
  let written := reading.label.length + 1
  let code := reading.code + reading.step / written
  let index := reading.step % written
  if code.isValidChar then
    some {
      label := reading.label.take index ++ Char.ofNat code :: reading.label.drop index
      code := code
      step := index + 1
      start := index + 1
      bias := adapt (reading.step - reading.start) written (reading.start == 0) }
  else none

/-- Read a digit. The last one of a number is below the threshold of its
place. -/
def Reading.read? (reading : Reading) (digit : Char) : Option Reading := do
  let value ← value? digit
  let limit := threshold reading.place reading.bias
  let reading := { reading with step := reading.step + value * reading.weight }
  if bound ≤ reading.step then none
  else if value < limit then reading.putIn?
  else if bound ≤ reading.weight * (36 - limit) then none
  else
    return { reading with
      place := reading.place + 36
      weight := reading.weight * (36 - limit) }

/-- The parts of a text around its last hyphen; without one, the first part is
empty. A text does not start with its last hyphen. -/
def splitBasics? (text : List Char) : Option (List Char × List Char) :=
  let digits := (text.reverse.takeWhile (· != '-')).reverse
  match text.take (text.length - digits.length) with
  | [] => some ([], digits)
  | ['-'] => none
  | basics => some (basics.dropLast, digits)

/-- The label that a text in ASCII stands for. -/
def decode? (text : List Char) : Option (List Char) := do
  let (basics, digits) ← splitBasics? text
  let reading ← digits.foldlM Reading.read? { label := basics : Reading }
  if reading.weight = 1 then return reading.label else none

end RingCache.Punycode
