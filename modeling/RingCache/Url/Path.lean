import RingCache.Url.Escape

/-!
# Paths of URLs

A path is a list of segments, each after a slash. `Path.resolve` follows the dot
segments: a single dot is left out, and a double dot takes the segment before it
away, unless that one is a drive, a letter with a colon or a bar.
-/

namespace RingCache.Path

/-- Whether a segment is a single dot. -/
def isDot (segment : List Char) : Bool :=
  [".", "%2e"].contains (String.ofList (segment.map Char.toLower))

/-- Whether a segment is a double dot. -/
def isDoubleDot (segment : List Char) : Bool :=
  ["..", ".%2e", "%2e.", "%2e%2e"].contains (String.ofList (segment.map Char.toLower))

/-- Whether two characters are a drive. -/
def isDrivePair (letter mark : Char) : Bool :=
  letter.isAlpha && (mark == ':' || mark == '|')

/-- Whether a segment is a drive. -/
def isDrive : List Char -> Bool
  | [letter, mark] => isDrivePair letter mark
  | _ => false

/-- Whether a segment is a drive or goes on with a backslash after one. -/
def startsWithDrive : List Char -> Bool
  | [letter, mark] => isDrivePair letter mark
  | letter :: mark :: '\\' :: _ => isDrivePair letter mark
  | _ => false

/-- The segments, last one first, without the last one, unless that is a
drive. -/
def leave : List (List Char) -> List (List Char)
  | [] => []
  | last :: rest => if startsWithDrive last then last :: rest else rest

/-- The first segment of a file's path: a drive is written with a colon. -/
def asDrive : List Char -> List Char
  | [letter, mark] => if isDrivePair letter mark then [letter, ':'] else [letter, mark]
  | segment => segment

/-- A segment after the ones that are given, last one first. -/
def enter (file : Bool) (reversed : List (List Char)) (segment : List Char) :
    List (List Char) :=
  (if file && reversed.isEmpty then asDrive segment else segment) :: reversed

/-- Follow the dot segments after the segments that are given, last one first.
A path that ends in a dot segment ends in a slash. -/
def resolveFrom (file : Bool) (reversed : List (List Char)) :
    List (List Char) -> List (List Char)
  | [] => reversed.reverse
  | [segment] =>
      if isDoubleDot segment then ([] :: leave reversed).reverse
      else if isDot segment then ([] :: reversed).reverse
      else (enter file reversed segment).reverse
  | segment :: rest =>
      if isDoubleDot segment then resolveFrom file (leave reversed) rest
      else if isDot segment then resolveFrom file reversed rest
      else resolveFrom file (enter file reversed segment) rest

/-- Follow the dot segments of a path, of a file or of anything else. -/
def resolve (file : Bool) (segments : List (List Char)) : List (List Char) :=
  resolveFrom file [] segments

/-- The segments of a text after the first slash of a path. Where a backslash
is a slash, `backslash` holds. -/
def segments (backslash : Bool) (text : List Char) : List (List Char) :=
  (text.map fun c => if backslash && c == '\\' then '/' else c).splitOn '/'

/-- Segments with a slash before each, escaped. -/
def text (segments : List (List Char)) : String :=
  String.ofList (segments.flatMap fun segment => '/' :: Escape.all Escape.inPath segment)

/-- The segments without the empty ones at the front, of which one stays if
there is no other. -/
def withoutLead (segments : List (List Char)) : List (List Char) :=
  match segments.dropWhile List.isEmpty with
  | [] => [[]]
  | rest => rest

end RingCache.Path
