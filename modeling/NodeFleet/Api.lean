import NodeFleet.Api.MediaType
import NodeFleet.Json.Parser
import NodeFleet.Target
import NodeFleet.Text.Percent
import NodeFleet.Wire.Fleet

/-!
# The HTTP interface of a fleet

The interface shows health, readiness and metrics, lists agents and their placements,
and takes and releases placements.  A request is matched by its path, then by its
method; the names in the path are decoded, then the body, and only then is the fleet
asked.  Only an accepted placement and a release change the fleet.
-/

namespace NodeFleet.Api

open NodeFleet.Text

structure Request where
  method : String
  /-- The target: the path, with the query if there is one, or a whole address. -/
  target : String
  /-- The body; empty if there is none. -/
  body : String
  /-- The declared media type of the body. -/
  contentType : Option String
  deriving DecidableEq

structure Response where
  status : Nat
  /-- The media type of the body, where it is fixed. -/
  contentType : Option String
  /-- The body, where it is JSON. -/
  body : Option Json

namespace Response

/-- A response without a body that matters. -/
def bare (status : Nat) : Response := { status, contentType := none, body := none }

def json (status : Nat) (body : Json) : Response :=
  { status, contentType := some "application/json", body := some body }

/-- A response that names an error. -/
def error (status : Nat) (message : String) : Response :=
  json status (Wire.ofErrorBody message)

/-- The response to a request that a fleet refuses. -/
def refusal (e : FleetError) : Response :=
  match e with
  | .unknownAgent _ => error 404 e.message
  | _ => error 500 e.message

def withoutBody (r : Response) : Response := { r with body := none }

end Response

/-! ## Routes -/

/-- What a path leads to; names are still percent-encoded. -/
inductive Route where
  | healthz
  /-- Whether the fleet is ready. -/
  | readyz
  | metrics
  | agents
  | agent (name : List Char)
  | placements (name : List Char)
  | placement (name workload : List Char)
  deriving DecidableEq

/-- The route that the segments after the version lead to.  The last segment is not empty. -/
def routeOfSegments? : List (List Char) → Option Route
  | [_] => some .agents
  | [_, name] => if name = [] then none else some (.agent name)
  | [_, name, placements] =>
      if placements = "placements".toList then some (.placements name) else none
  | [_, name, placements, workload] =>
      if placements = "placements".toList ∧ workload ≠ [] then some (.placement name workload)
      else none
  | _ => none

/-- What a target leads to. -/
def route? (target : String) : Option Route :=
  let path := Target.path target
  if path = "/healthz".toList then some .healthz
  else if path = "/readyz".toList then some .readyz
  else if path = "/metrics".toList then some .metrics
  else
    match after? "/api/v1/agents".toList path with
    | some rest =>
        if rest = [] ∨ rest.head? = some '/' then routeOfSegments? (splitOn '/' rest) else none
    | none => none

/-- A decoded segment of a path. -/
def decodeSegment? (segment : List Char) : Option String :=
  (Percent.decode? segment).map String.ofList

/-! ## Handlers -/

/-- The health of the components: an error status if it is bad. -/
def health (f : Fleet) : Response :=
  let report := f.site.telemetry.health.report
  Response.json (if report.status = .unhealthy then 503 else 200) report.toJson

/-- Whether the fleet is ready: an error status if it is not. -/
def readiness (f : Fleet) : Response :=
  let readiness := f.site.telemetry.health.readiness
  Response.json (if readiness.ready then 200 else 503) readiness.toJson

/-- The metrics page; its body is a text and not JSON. -/
def metricsPage : Response :=
  { status := 200, contentType := some "text/plain; version=0.0.4; charset=utf-8", body := none }

/-- The views of the agents. -/
def listAgents (f : Fleet) : Response :=
  Response.json 200 (.list Agent.Summary.toJson f.summaries)

/-- The view of an agent. -/
def getAgent (f : Fleet) (name : String) : Response :=
  match f.agent name with
  | .ok (_, agent) => Response.json 200 agent.summary.toJson
  | .error e => Response.refusal e

/-- The placements of an agent. -/
def listPlacements (f : Fleet) (name : String) : Response :=
  match f.agent name with
  | .ok (_, agent) => Response.json 200 (.list AdmissionRecord.toJson agent.ledger.records)
  | .error e => Response.refusal e

/-- Reads the body of a placement request, or gives the status that refuses it.  What follows the
value in the body is not looked at. -/
def readPlacement (r : Request) : Except Nat PlacementRequest :=
  match r.contentType with
  | none => .error 415
  | some type =>
      if !MediaType.declaresJson type then .error 415
      else
        match PlacementRequest.ofJson (Json.parseFront r.body) with
        | .ok placement => .ok placement
        | .error .unreadable => .error 400
        | .error _ => .error 422

/-- The most bytes that are taken of a body. -/
def bodyLimit : Nat := 2 * 1024 * 1024

/-- Takes a placement request: its media type is looked at before the length of its body, and the
body is read last. -/
def takePlacement (r : Request) : Except Nat PlacementRequest :=
  if r.contentType.any MediaType.declaresJson && bodyLimit < r.body.utf8ByteSize then .error 413
  else readPlacement r

/-- Places a workload: the status tells whether it was admitted. -/
def place (f : Fleet) (name : String) (p : PlacementRequest) : Response × Fleet :=
  if Text.trim p.workload.toList = [] then
    (Response.error 400 "workload_id must not be empty", f)
  else
    match f.submit name p.workload p.request with
    | .ok (decision, f) =>
        (Response.json (if decision.isAdmitted then 200 else 409) decision.toJson, f)
    | .error e => (Response.refusal e, f)

/-- Takes the body of a placement request and places its workload. -/
def submitPlacement (f : Fleet) (name : String) (r : Request) : Response × Fleet :=
  match takePlacement r with
  | .ok placement => place f name placement
  | .error status => (Response.bare status, f)

/-- Releases a workload, whether it is live or not. -/
def releasePlacement (f : Fleet) (name workload : String) : Response × Fleet :=
  match f.release name workload with
  | .ok (_, f) => (Response.bare 204, f)
  | .error e => (Response.refusal e, f)

/-! ## Requests -/

/-- Goes on with a decoded segment, or refuses the path. -/
def withSegment {α : Type} (segment : List Char) (refused : α) (go : String → α) : α :=
  match decodeSegment? segment with
  | some text => go text
  | none => refused

/-- The response to reading a route, if it can be read. -/
def read? (f : Fleet) : Route → Option Response
  | .healthz => some (health f)
  | .readyz => some (readiness f)
  | .metrics => some metricsPage
  | .agents => some (listAgents f)
  | .agent name => some (withSegment name (Response.bare 400) (getAgent f))
  | .placements name => some (withSegment name (Response.bare 400) (listPlacements f))
  | .placement .. => none

/-- Handles a request whose path leads somewhere. -/
def handleRoute (f : Fleet) (r : Request) (route : Route) : Response × Fleet :=
  match r.method, route with
  | "GET", route => ((read? f route).getD (Response.bare 405), f)
  | "HEAD", route => (((read? f route).map Response.withoutBody).getD (Response.bare 405), f)
  | "POST", .placements name =>
      withSegment name (Response.bare 400, f) fun name => submitPlacement f name r
  | "DELETE", .placement name workload =>
      withSegment name (Response.bare 400, f) fun name =>
        withSegment workload (Response.bare 400, f) fun workload => releasePlacement f name workload
  | _, _ => (Response.bare 405, f)

def handle (f : Fleet) (r : Request) : Response × Fleet :=
  match route? r.target with
  | some route => handleRoute f r route
  | none => (Response.bare 404, f)

end NodeFleet.Api
