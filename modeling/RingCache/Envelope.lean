import RingCache.Failure
import RingCache.Json.Reader
import RingCache.Json.Value
import RingCache.Text.Base64

/-!
# Envelopes

What one node sends to another: a JSON record whose only field holds the octets
of a value in Base64. An envelope can be read whatever text it holds; only
opening it asks for the one written form of octets.
-/

namespace RingCache

/-- The text in which a value travels. -/
structure Envelope where
  /-- The written form of the octets. -/
  value : String
  deriving Repr, DecidableEq

namespace Envelope

/-- The envelope of octets. -/
def ofOctets (octets : Octets) : Envelope :=
  ⟨Base64.encode octets⟩

/-- The JSON value of an envelope. -/
def toJson (envelope : Envelope) : Json.Value :=
  .object [("value", .string envelope.value)]

/-- Read the JSON text of an envelope. -/
def read (octets : Octets) : Except Json.Flaw Envelope :=
  (Json.readWhole "value" Json.Reader.text octets).map Envelope.mk

/-- The octets in an envelope. -/
def contents (envelope : Envelope) : Except Failure Octets :=
  match Base64.decode envelope.value with
  | .ok octets => .ok octets
  | .error fault => .error (.transport ("decoding response body: " ++ fault.message))

end Envelope

end RingCache
