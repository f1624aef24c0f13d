import RingCache.Text.Blank

/-!
# Addresses and base paths

Nodes are known by the address under which they are reached. Blanks around an
address and slashes after it mean nothing, so spellings of one address that
differ only there are brought to one form. A base path begins and ends with one
slash.
-/

namespace RingCache.Address

/-- Whether a character is a slash. -/
def isSlash (character : Char) : Bool :=
  character == '/'

/-- An address without blanks around it, and then without slashes after it. -/
def normalize (address : String) : String :=
  String.ofList (Blank.trimRight isSlash (Blank.trimBoth Blank.isBlank address.toList))

/-- A base path with one slash before and one after it. -/
def basePath (path : String) : String :=
  match Blank.trimBoth isSlash path.toList with
  | [] => "/"
  | inner => String.ofList ('/' :: inner ++ ['/'])

/-- The base path of the peer endpoint when nothing else is asked for. -/
def defaultBasePath : String := "/_cache/"

end RingCache.Address
