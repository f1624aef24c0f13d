/-!
# Failures

What can go wrong with a lookup or a request, as causes. `Failure.message` is
the wording, `Failure.status` the answer that a node gives over HTTP. A failure
is a value, so that one load's failure can be handed to every lookup that
shared the load.
-/

namespace RingCache

/-- Why a lookup or a request gave no value. -/
inductive Failure where
  /-- A lookup of the empty key. -/
  | emptyKey
  /-- The source of a group gave no value. -/
  | loader (detail : String)
  /-- A peer could not be asked, or its answer could not be used. -/
  | transport (detail : String)
  /-- No group has this name. -/
  | unknownGroup (name : String)
  /-- A request that no node can answer. -/
  | malformedRequest (detail : String)
  /-- The group with this name already asks peers. -/
  | peersAlreadyRegistered (group : String)
  /-- A node cannot do what it is asked for. -/
  | internal (detail : String)
  deriving Repr, DecidableEq

namespace Failure

/-- The wording of a failure. -/
def message : Failure -> String
  | .emptyKey => "key is required"
  | .loader detail => "loader failed: " ++ detail
  | .transport detail => "peer transport failed: " ++ detail
  | .unknownGroup name => "no such group: " ++ name
  | .malformedRequest detail => "malformed request: " ++ detail
  | .peersAlreadyRegistered group => "peer picker already registered for group " ++ group
  | .internal detail => "internal error: " ++ detail

/-- The status of a node's answer. -/
def status : Failure -> Nat
  | .emptyKey => 400
  | .malformedRequest _ => 400
  | .unknownGroup _ => 404
  | .transport _ => 502
  | .loader _ => 500
  | .peersAlreadyRegistered _ => 500
  | .internal _ => 500

end Failure

end RingCache
