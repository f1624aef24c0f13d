import RingCache.Ascending
import RingCache.Group

/-!
# Registries

The groups of a node, numbered in the order in which they were created. A name
leads to the group created last under it; a group that loses its name that way
lives on under its number, with what it keeps and with its lookups.
-/

namespace RingCache

/-- Groups by number, and the numbers of the names. -/
structure Registry where
  /-- All groups, in the order of creation. -/
  groups : List Group := []
  /-- The number of the group of each name, ascending. -/
  index : List (String × Nat) := []

namespace Registry

/-- Create a group under a name; its number is that of the groups before. -/
def create (registry : Registry) (name : String) (budget : Nat) (source : Source) : Registry :=
  { groups := registry.groups ++ [Group.create name budget source]
    index := Ascending.insert name registry.groups.length registry.index }

/-- The number of the group of a name. -/
def number? (registry : Registry) (name : String) : Option Nat :=
  registry.index.lookup name

/-- The group of a name. -/
def find? (registry : Registry) (name : String) : Option Group := do
  registry.groups[← registry.number? name]?

/-- The names, ascending. -/
def names (registry : Registry) : List String :=
  registry.index.map Prod.fst

/-- The number of names. -/
def size (registry : Registry) : Nat :=
  registry.index.length

/-- Whether there is no name. -/
def isEmpty (registry : Registry) : Bool :=
  registry.index.isEmpty

/-- The snapshots of the named groups, with their names. -/
def snapshots (registry : Registry) : List (String × Snapshot) :=
  registry.index.filterMap fun named =>
    registry.groups[named.2]?.map fun group => (named.1, group.snapshot)

/-- An event happens to the group with a number. -/
def step (registry : Registry) (number : Nat) (event : Group.Event) :
    Registry × List (Notice Call Result) :=
  match registry.groups[number]? with
  | none => (registry, [])
  | some group =>
      let stepped := group.step event
      ({ registry with groups := registry.groups.set number stepped.1 }, stepped.2)

end Registry

end RingCache
