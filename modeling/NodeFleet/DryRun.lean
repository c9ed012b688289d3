import NodeFleet.Api
import NodeFleet.Cli
import NodeFleet.DaemonConfig

/-!
# Dry runs

In a dry run the client talks to a fleet in memory: the interface of the fleet replies to the
client's requests, and no network is involved.
-/

namespace NodeFleet.DryRun

/-- The request to the interface that a request of the client is. -/
def requestOf (r : Cli.Request) : Api.Request :=
  { method := r.method
    target := r.url.target
    body := (r.body.map Json.compact).getD ""
    contentType := r.body.map fun _ => "application/json" }

/-- The reply to the client that a response of the interface is. -/
def replyOf (r : Api.Response) : Cli.Reply :=
  { status := r.status, body := (r.body.map Json.compact).getD "" }

/-- The reply of a fleet to a request of the client. -/
def reply (r : Cli.Request) (f : Fleet) : Option Cli.Reply × Fleet :=
  let (response, f) := Api.handle f (requestOf r)
  (some (replyOf response), f)

/-- The time in which a fleet settles after its last agent was launched. -/
def settlingTime : Duration := Duration.ofSeconds 1

/-- A fleet of a configuration, started without random delays and settled. -/
def start (config : DaemonConfig) (epoch : Timestamp) : Except FleetError Fleet := do
  let site := Site.create (.empty 0) epoch
  let fleet ← Fleet.create { config.fleet with startJitterMillis := 0 } site
  let fleet ← fleet.start fun _ => 0
  return fleet.elapse (config.fleet.fleetSize * config.fleet.startStagger + settlingTime)

/-- Carries a session of the client out against a fleet. -/
def run (f : Fleet) (session : Cli.Session Unit) : Cli.Session.Transcript Unit × Fleet :=
  session.run reply f

end NodeFleet.DryRun
