import RingCache.Calendar
import RingCache.Cluster
import RingCache.Http.Wire
import Std.Time.DateTime.Timestamp

/-!
# A node on one connection

The program is a node that serves the requests of one connection, its standard
input and output, until it ends. The node is configured by the variables of its
environment and has a score table as the source of its group. No peer can be
reached from here, so that a key which a peer owns is loaded by the node itself.
-/

namespace RingCache.Main

/-- The configuration in the variables of the environment. -/
def configuration : IO Config := do
  let values ← Config.variableNames.mapM fun name => do
    return (name, (← IO.getEnv name).map Utf8.encode)
  return Config.ofEnvironment fun name => (values.lookup name).join

/-- The time. -/
def now : IO String := do
  let moment ← Std.Time.Timestamp.now
  return Calendar.moment moment.toNanosecondsSinceUnixEpoch.val.toNat

/-- Read the lines of a head, up to the empty one. -/
partial def readHead (input : IO.FS.Stream) (lines : List String) : IO (List String) := do
  let line ← input.getLine
  if (Http.stripped line.toList).isEmpty then return lines.reverse
  else readHead input (line :: lines)

/-- Read so many octets, or up to the end. -/
partial def readBody (input : IO.FS.Stream) (length : Nat) (body : Octets) : IO Octets := do
  if length ≤ body.length then return body
  let piece ← input.read (USize.ofNat (length - body.length))
  if piece.isEmpty then return body
  readBody input length (body ++ piece.toList)

/-- Answer requests until there are no more. -/
partial def serve (input output : IO.FS.Stream) (cluster : Cluster) : IO Unit := do
  match Http.Request.ofHead? (← readHead input []) with
  | none => return
  | some request =>
      let body ← readBody input request.announced []
      let (cluster, _, response) := cluster.serve 0 (← now) { request with body := body }
      let response := response.getD (Http.Response.rejection 500)
      output.write ⟨(response.onWire request).toArray⟩
      output.flush
      serve input output cluster

end RingCache.Main

/-- Serve one connection. -/
def main : IO Unit := do
  let node := RingCache.Node.ofConfig (← RingCache.Main.configuration) RingCache.Source.scores
    RingCache.Transport.offline
  RingCache.Main.serve (← IO.getStdin) (← IO.getStdout) ⟨[⟨node, none⟩], []⟩
