/-!
# Lists in ascending order of keys

A finite map as the list of its pairs in ascending order of keys, each key
once. `insert` keeps the order and replaces the value of a key that is there;
`List.lookup` finds a value.
-/

namespace RingCache.Ascending

variable {κ β : Type} [LT κ] [DecidableLT κ] [DecidableEq κ]

/-- Give a key a value, whatever value it had before. -/
def insert (key : κ) (value : β) : List (κ × β) -> List (κ × β)
  | [] => [(key, value)]
  | pair :: rest =>
      if key < pair.1 then (key, value) :: pair :: rest
      else if key = pair.1 then (key, value) :: rest
      else pair :: insert key value rest

/-- Whether a pair may stand before another one. -/
def inOrder (first second : κ × β) : Bool :=
  !decide (second.1 < first.1)

/-- The last pair of each key, of pairs in ascending order. -/
def lastOfEach : List (κ × β) -> List (κ × β)
  | first :: second :: rest =>
      if first.1 = second.1 then lastOfEach (second :: rest)
      else first :: lastOfEach (second :: rest)
  | pairs => pairs

/-- Give keys values, the later ones of a key in place of the earlier ones. -/
def insertAll (pairs : List (κ × β)) (map : List (κ × β)) : List (κ × β) :=
  lastOfEach (map.merge (pairs.mergeSort inOrder) inOrder)

/-- The map of pairs, of which the last value of a key stays. -/
def ofList (pairs : List (κ × β)) : List (κ × β) :=
  insertAll pairs []

end RingCache.Ascending
