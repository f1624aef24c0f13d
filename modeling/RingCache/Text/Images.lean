/-!
# Images of code points

A map from code points to texts, written in rows. A row gives the images of
evenly spaced code points in one text, with blanks between them.
-/

namespace RingCache.Images

/-- The images of evenly spaced code points. -/
structure Row where
  /-- The first code point. -/
  first : Nat
  /-- How far each code point is from the one before it. -/
  step : Nat
  /-- The images. -/
  images : List (List Char)
  deriving Repr

/-- The row of a text with blanks between the images. -/
def Row.read (first step : Nat) (images : String) : Row :=
  ⟨first, step, images.toList.splitOn ' '⟩

/-- The image of a code point in a row. -/
def Row.image? (row : Row) (code : Nat) : Option (List Char) :=
  if row.first ≤ code && (code - row.first) % row.step == 0 then
    row.images[(code - row.first) / row.step]?
  else none

/-- The code points of a row with their images. -/
def Row.entries (row : Row) : List (Nat × List Char) :=
  row.images.zipIdx.map fun (image, index) => (row.first + row.step * index, image)

/-- The image of a code point in the first row that has one. -/
def image? (rows : List Row) (code : Nat) : Option (List Char) :=
  rows.findSome? fun row => row.image? code

end RingCache.Images
