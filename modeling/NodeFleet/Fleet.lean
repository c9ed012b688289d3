import NodeFleet.Cohort

/-!
# Fleets

A fleet is created from a valid configuration, started once, and shut down.  While it
runs, placements are sent to its agents by name.

Shutting down first ends the launch, then takes back readiness, and then stops all
launched agents together.
-/

namespace NodeFleet

/-- Why a request to a fleet is refused. -/
inductive FleetError where
  | config (error : ConfigError)
  | unknownAgent (name : String)
  | alreadyStarted

/-- The short name of a refusal. -/
def FleetError.kind : FleetError → String
  | .config _ => "fleet"
  | .unknownAgent _ => "unknown_agent"
  | .alreadyStarted => "already_started"

/-- The wording of a refusal. -/
def FleetError.message : FleetError → String
  | .config error => "invalid fleet configuration: " ++ error.message
  | .unknownAgent name => "unknown agent '" ++ name ++ "'"
  | .alreadyStarted => "fleet already started"

structure Fleet where
  config : FleetConfig
  /-- The profiles of the agents, by number. -/
  profiles : List Profile
  /-- The agents at work. -/
  cohort : Cohort
  /-- Whether the launch was begun and no shutdown has waited for it. -/
  holdsLauncher : Bool

namespace Fleet

/-- The version that the journal names. -/
def version : String := "0.1.0"

/-- A fleet of a configuration, not started. -/
def create (config : FleetConfig) (site : Site) : Except FleetError Fleet :=
  let profiles : Except ConfigError (List Profile) := do
    config.validate
    (List.range config.fleetSize).mapM config.profileFor
  match profiles with
  | .ok profiles => .ok { config, profiles, cohort := .create site, holdsLauncher := false }
  | .error error => .error (.config error)

/-! ## Starting -/

/-- What is to be launched: the agents in the order of their offsets. -/
def launchPlan (f : Fleet) (offsets : List Duration) : List (Duration × Nat × AgentSetup) :=
  (launchSchedule offsets).filterMap fun (offset, index) =>
    (f.profiles[index]?).map fun profile => (offset, index, f.config.setupFor index profile)

/-- Begins the launch with the given offsets of the agents. -/
def beginLaunch (f : Fleet) (offsets : List Duration) : Fleet :=
  let site := f.cohort.site.note (.fleetStarted version f.config.fleetSize)
  let launcher : Launcher :=
    { began := site.now, pending := f.launchPlan offsets, isDone := false }
  { f with holdsLauncher := true, cohort := { f.cohort with site, launcher := some launcher } }

/-- Starts the fleet; `draw` gives the random extra delay of each agent. -/
def start (f : Fleet) (draw : Nat → Duration) : Except FleetError Fleet :=
  if f.holdsLauncher then .error .alreadyStarted
  else
    let c := f.config
    let offsets := launchOffsets? c.fleetSize c.startStagger c.startJitter draw
    .ok (f.beginLaunch (offsets.getD []))

/-! ## Agents by name -/

/-- The launched agent of the given name and its position. -/
def find? (f : Fleet) (name : String) : Option (Nat × Agent) :=
  (f.cohort.members.zipIdx.find? fun (member, _) => member.agent.name = name).map
    fun (member, position) => (position, member.agent)

/-- The launched agent of the given name and its position, or the refusal. -/
def agent (f : Fleet) (name : String) : Except FleetError (Nat × Agent) :=
  match f.find? name with
  | some found => .ok found
  | none => .error (.unknownAgent name)

/-- The number of launched agents. -/
def launched (f : Fleet) : Nat := f.cohort.members.length

/-- The launched agents in the order of their numbers. -/
def agents (f : Fleet) : List Agent :=
  (f.cohort.members.mergeSort fun a b => a.index ≤ b.index).map Member.agent

/-- The views of the launched agents in the order of their numbers. -/
def summaries (f : Fleet) : List Agent.Summary :=
  f.agents.map Agent.summary

def site (f : Fleet) : Site := f.cohort.site

/-- Replaces the agent at a position. -/
def setAgent (f : Fleet) (position : Nat) (agent : Agent) (site : Site) : Fleet :=
  { f with cohort := f.cohort.setAgent position agent site }

/-! ## Placements -/

/-- Submits a workload to an agent. -/
def submit (f : Fleet) (name workload : String) (request : ResourceRequest) :
    Except FleetError (AdmissionDecision × Fleet) := do
  let (position, agent) ← f.agent name
  let (decision, agent, site) := agent.submit workload request f.site
  return (decision, f.setAgent position agent site)

/-- Releases a workload of an agent. -/
def release (f : Fleet) (name workload : String) : Except FleetError (Bool × Fleet) := do
  let (position, agent) ← f.agent name
  let (removed, agent, site) := agent.release workload f.site
  return (removed, f.setAgent position agent site)

/-! ## Time and the end -/

/-- Lets time pass. -/
def elapse (f : Fleet) (time : Duration) : Fleet :=
  { f with cohort := f.cohort.elapse time }

def stopAgent (f : Fleet) (name : String) : Except FleetError (Agent.StopOutcome × Fleet) := do
  let (position, agent) ← f.agent name
  let (outcome, cohort) := f.cohort.stopAgent position
  let unknown : Agent.StopOutcome := { name, clean := false, finalState := agent.state }
  return (outcome.getD unknown, { f with cohort })

/-- The first part of a shutdown: no agent is launched after it, and the fleet is not ready. -/
def endLaunch (f : Fleet) : Fleet :=
  let cohort := { f.cohort with launchCancelled := true }
  let cohort := if f.holdsLauncher then cohort.endLaunch else cohort
  let site := { cohort.site with telemetry := cohort.site.telemetry.setReady false }
  { f with holdsLauncher := false, cohort := { cohort with site } }

/-- The second part of a shutdown: all agents are stopped, and the outcomes reported. -/
def stopAll (f : Fleet) : ShutdownReport × Fleet :=
  let names := f.cohort.members.map fun member => member.agent.name
  let (outcomes, cohort) := f.cohort.stopAll
  let report := ShutdownReport.ofOutcomes names outcomes
  let site := cohort.site.note (.fleetStopped report.stopped.length report.failed)
  (report, { f with cohort := { cohort with site } })

/-- Shuts the fleet down. -/
def shutdown (f : Fleet) : ShutdownReport × Fleet :=
  f.endLaunch.stopAll

end Fleet

end NodeFleet
