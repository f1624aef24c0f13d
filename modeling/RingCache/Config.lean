import RingCache.Address
import RingCache.Ring
import RingCache.Text.Digits

/-!
# Configuration of a node

Seven variables say what a node is. A variable whose octets are no text counts
as unset, and so does a number that cannot be read; an empty text is a value.
Peers that are blank are dropped, and a node without peers has itself as its
only one.
-/

namespace RingCache

/-- What a node is told before it starts. -/
structure Config where
  /-- The port that the node listens on. -/
  port : Nat
  /-- The node's own address, as its peers write it. -/
  address : String
  /-- The addresses of all nodes, this one included. -/
  peers : List String
  /-- The base path of the peer endpoint. -/
  basePath : String
  /-- How many ring positions each peer claims. -/
  replicas : Nat
  /-- The budget of the node's group. -/
  budget : Nat
  /-- The name of the node's group. -/
  group : String
  deriving Repr, DecidableEq

namespace Config

/-- The names of the variables. -/
def variableNames : List String :=
  ["SERVER_PORT", "SELF_ADDR", "PEERS", "BASE_PATH", "REPLICAS", "CACHE_BYTES", "GROUP_NAME"]

/-- The values of variables, as far as they are set. -/
abbrev Environment := String -> Option Octets

/-- The address of a node that is only known by its port. -/
def localAddress (port : Nat) : String :=
  "http://localhost:" ++ toString port

/-- The port of a node that is told none. -/
def defaultPort : Nat := 8001

/-- The budget of a node that is told none. -/
def defaultBudget : Nat := 64 * 1024 * 1024

/-- The group of a node that is told none. -/
def defaultGroup : String := "scores"

/-- The text of a variable. -/
def text? (environment : Environment) (name : String) : Option String :=
  (environment name).bind Utf8.decode?

/-- The number below a bound that a variable holds, with blanks around it. -/
def number? (environment : Environment) (bound : Nat) (name : String) : Option Nat :=
  (text? environment name).bind fun text =>
    Digits.unsigned? bound (Utf8.encode (Blank.trim text))

/-- The pieces of a text between commas. -/
def pieces (text : String) : List String :=
  (text.toList.splitOn ',').map String.ofList

/-- The addresses in a list with commas, without blanks around them and
without blank ones. -/
def splitPeers (text : String) : List String :=
  ((pieces text).map Blank.trim).filter fun peer => !peer.isEmpty

/-- The peers of a list, or the node itself if the list names none. -/
def peersOr (address : String) (listed : Option String) : List String :=
  match listed.elim [] splitPeers with
  | [] => [address]
  | peers => peers

/-- What the variables say. -/
def ofEnvironment (environment : Environment) : Config :=
  let port := (number? environment Digits.limit16 "SERVER_PORT").getD defaultPort
  let address := (text? environment "SELF_ADDR").getD (localAddress port)
  { port := port
    address := address
    peers := peersOr address (text? environment "PEERS")
    basePath := (text? environment "BASE_PATH").getD Address.defaultBasePath
    replicas := (number? environment Digits.limit64 "REPLICAS").getD Ring.defaultReplicas
    budget := (number? environment Digits.limit64 "CACHE_BYTES").getD defaultBudget
    group := (text? environment "GROUP_NAME").getD defaultGroup }

/-- What a node is when no variable is set. -/
def standard : Config where
  port := defaultPort
  address := localAddress defaultPort
  peers := [localAddress defaultPort]
  basePath := Address.defaultBasePath
  replicas := Ring.defaultReplicas
  budget := defaultBudget
  group := defaultGroup

end Config

end RingCache
