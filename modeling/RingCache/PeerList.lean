import RingCache.Json.Reader
import RingCache.Json.Value

/-!
# Lists of peers

The request that gives a node new peers, and its answer, which is a well-formed
request for the same peers again.
-/

namespace RingCache.PeerList

/-- The reader of the request: a record with a list of addresses. -/
def reader : Json.Reader (List String) := .texts

/-- The name of the field that holds the addresses. -/
def field : String := "peers"

/-- Read a request that is a whole text. -/
def read (octets : Octets) : Except Json.Flaw (List String) :=
  Json.readWhole field reader octets

/-- Read the request at the front of a message body. -/
def readBody (octets : Octets) : Except Json.Flaw (List String) :=
  Json.readLeading field reader octets

/-- Why peers cannot be accepted. -/
inductive Fault where
  /-- There are none. -/
  | empty
  /-- This one has no address of a kind that nodes can reach. -/
  | unsupported (peer : String)
  deriving Repr, DecidableEq

/-- The wording of a fault. -/
def Fault.message : Fault -> String
  | .empty => "Peer list cannot be empty"
  | .unsupported peer => "Peer '" ++ peer ++ "' is not an http(s) base URL"

/-- Whether a peer has an address of a kind that nodes can reach. -/
def isSupported (peer : String) : Bool :=
  peer.startsWith "http://" || peer.startsWith "https://"

/-- The first reason not to accept peers. -/
def fault? (peers : List String) : Option Fault :=
  if peers.isEmpty then some .empty
  else (peers.find? fun peer => !isSupported peer).map .unsupported

/-- The answer to an accepted request: the peers that the node now has. -/
def answer (peers : List String) : Json.Value :=
  .object [("message", .string (toString peers.length ++ " peers configured")),
    ("peers", .strings peers)]

end RingCache.PeerList
