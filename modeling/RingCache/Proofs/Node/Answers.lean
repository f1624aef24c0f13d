import RingCache.Node

/-!
# The status of what a node answers

A node answers a request at once, or with the result of a lookup. Then the status is the one
of this result, whatever the request was, while no answer that is given at once reports a
failure of transport (`Node.reports_decide`).
-/

namespace RingCache

open Http

/-! ## Responses -/

namespace Http.Response

@[simp] theorem status_json (status : Nat) (value : Json.Value) :
    (json status value).status = status := rfl

theorem body_json (status : Nat) (value : Json.Value) :
    (json status value).body = Utf8.encode value.render := rfl

@[simp] theorem status_octets (body : Octets) : (octets body).status = 200 := rfl

@[simp] theorem status_failure (cause : Failure) : (failure cause).status = cause.status := rfl

@[simp] theorem status_rejection (status : Nat) : (rejection status).status = status := rfl

@[simp] theorem status_preflight : preflight.status = 200 := rfl

@[simp] theorem status_anyOrigin (response : Response) :
    response.anyOrigin.status = response.status := rfl

@[simp] theorem body_anyOrigin (response : Response) : response.anyOrigin.body = response.body :=
  rfl

@[simp] theorem status_withoutBody (response : Response) :
    response.withoutBody.status = response.status := rfl

end Http.Response

@[simp] theorem Http.Route.status_withAllow (route : Route) (response : Response) :
    (route.withAllow response).status = response.status := by
  rw [withAllow]
  cases route.methods? <;> rfl

/-- The status of the answer to a lookup that gives a result. -/
def statusOf : Result → Nat
  | .ok _ => 200
  | .error cause => cause.status

@[simp] theorem Http.Response.status_ofResult (isSealed : Bool) (result : Result) :
    (ofResult isSealed result).status = statusOf result := by
  cases result with
  | ok value => cases isSealed <;> rfl
  | error cause => rfl

/-! ## Decisions -/

namespace Decision

/-- Whether an answer at once does not report a failure of transport, and an answer after a
lookup reports its result. -/
def Reports : Decision → Prop
  | .respond response => response.status ≠ 502
  | .replacePeers _ => True
  | .lookup _ _ answer => ∀ result, (answer result).status = statusOf result

/-- Changing anything but the status keeps this. -/
theorem Reports.mapResponse {decision : Decision} (reports : decision.Reports)
    {change : Response → Response}
    (keeps : ∀ response, (change response).status = response.status) :
    (decision.mapResponse change).Reports := by
  cases decision with
  | respond response => simpa [Decision.mapResponse, Reports, keeps] using reports
  | replacePeers peers => trivial
  | lookup number key answer => simpa [Decision.mapResponse, Reports, keeps] using reports

end Decision

namespace Node

/-- A lookup in a group that is not there is answered at once. -/
theorem reports_look (node : Node) (isSealed : Bool) (group key : String) :
    (node.look isSealed group key).Reports := by
  rw [look]
  cases node.registry.number? group with
  | none => simp [Decision.Reports, Failure.status]
  | some number => simp [Decision.Reports]

theorem reports_decidePeers (node : Node) (request : Request) :
    (node.decidePeers request).Reports := by
  rw [decidePeers]
  repeat' split
  all_goals simp [Decision.Reports, Failure.status]

theorem reports_decideRoute (node : Node) (time : String) (request : Request) (route : Route) :
    (node.decideRoute time request route).Reports := by
  cases route with
  | value group key =>
      rw [decideRoute, decideValue]
      split
      · exact reports_look _ _ _ _
      · simp [Decision.Reports]
  | peers => exact reports_decidePeers node request
  | stats => simp [decideRoute, Decision.Reports]
  | health => simp [decideRoute, Decision.Reports]
  | exchange =>
      rw [decideRoute, decideExchange]
      split
      · exact reports_look _ _ _ _
      · simp [Decision.Reports, Failure.status]

/-- Whatever a node is asked, it answers so. -/
theorem reports_decide (node : Node) (time : String) (request : Request) :
    (node.decide time request).Reports := by
  rw [decide]
  dsimp only
  split
  · simp [Decision.Reports]
  · split
    · simp [Decision.Reports]
    · have routed := reports_decideRoute node time request (Route.ofPath request.path)
      have reports := routed.mapResponse Response.status_anyOrigin
      split
      · exact reports.mapResponse Response.status_withoutBody
      · exact reports

/-- New peers are answered with their list. -/
theorem status_peersResponse (node : Node) : node.peersResponse.status = 200 := rfl

end Node

end RingCache
