import NodeFleet.Cli.Arguments
import NodeFleet.Cli.Page
import NodeFleet.Cli.Session
import NodeFleet.Cli.StatusText
import NodeFleet.Json.Printer

/-!
# The client

The client shows the agents of a daemon and their placements, and places and releases
workloads.  Its settings come from the command line, then from the environment, then from a
file.  The names that it is given become part of the address as they are, so an address
is resolved as a reference seen from the daemon's address.
-/

namespace NodeFleet.Cli

open Json

/-! ## Preferences -/

/-- What the file of preferences says. -/
structure Preferences where
  /-- The address of the daemon. -/
  apiUrl : Option String
  defaultFormat : Option String
  deriving DecidableEq

namespace Preferences

/-- The fields of the file. -/
def record : Record Preferences :=
  ((Record.const Preferences.mk).optional "api_url" Decoder.string).optional "default_format"
    Decoder.string

/-- Reads the file; without one nothing is preferred. -/
def load : Option String → Session Preferences
  | none => .done { apiUrl := none, defaultFormat := none }
  | some text =>
      Session.orFail "Failed to parse config file"
        (decodeWhole record.decode (parseWhole text)).toOption

/-- The address where none is given. -/
def defaultUrl : String := "http://localhost:8080"

/-- The address of the daemon, if `given` is what the call says. -/
def url (p : Preferences) (given : Option String) : String :=
  (given.or p.apiUrl).getD defaultUrl

/-- The format, if `given` is what the call says.  A name in the file may be in letters of either
case. -/
def format (p : Preferences) (given : Option OutputFormat) : Session OutputFormat :=
  match given, p.defaultFormat with
  | some format, _ => .done format
  | none, none => .done .table
  | none, some name =>
      Session.orFail ("Invalid default_format in config: invalid variant: " ++ name)
        (OutputFormat.ofName? (String.ofList (name.toList.map Char.toLower)))

end Preferences

/-! ## Addresses -/

/-- The reference to the agents. -/
def agentsPath : String := "api/v1/agents"

/-- The reference to an agent. -/
def agentPath (agent : String) : String :=
  agentsPath ++ "/" ++ agent

/-- The reference to the placements of an agent. -/
def placementsPath (agent : String) : String :=
  agentPath agent ++ "/placements"

/-- The reference to a placement. -/
def placementPath (agent workload : String) : String :=
  placementsPath agent ++ "/" ++ workload

/-! ## Asking the daemon -/

/-- A client of a daemon. -/
structure Client where
  /-- The address of the daemon. -/
  base : Url
  /-- Whether texts are coloured. -/
  palette : Palette
  /-- How results are shown. -/
  format : OutputFormat

/-- The failure that a reply tells of. -/
def Reply.failure (r : Reply) : String :=
  "API error (" ++ statusText r.status ++ "): " ++ (errorText? r.body).getD r.body

namespace Client

/-- Asks the daemon for what a reference leads to. -/
def ask (c : Client) (method reference : String) (body : Option Json) : Session Reply := do
  let url ← Session.orFail "Invalid path" (c.base.join? reference)
  let reply ← Session.send { method, url, body }
  Session.orFail "Failed to send request" reply

def readBody {α : Type} (decode : Decoder α) (r : Reply) : Session α :=
  Session.orFail "Failed to parse response" (decodeWhole decode (parseWhole r.body)).toOption

/-- Gets a value. -/
def get {α : Type} (c : Client) (reference : String) (decode : Decoder α) : Session α := do
  let reply ← c.ask "GET" reference none
  if reply.isSuccess then readBody decode reply else .failed reply.failure

/-- Gets the placements of an agent. -/
def placements (c : Client) (agent : String) : Session (List PlacementView) :=
  c.get (placementsPath agent) (Decoder.list PlacementView.ofJson)

/-- Prints a value as JSON. -/
def sayJson (value : Json) : Session Unit :=
  Session.say value.pretty

/-! ## Commands -/

def listAgents (c : Client) : Session Unit := do
  let agents ← c.get agentsPath (Decoder.list AgentView.ofJson)
  match c.format with
  | .json => sayJson (.list AgentView.toJson agents)
  | .table => do
      Session.say (tableOrNote c.palette AgentView.head (agents.map (AgentView.row c.palette)))
      Session.say ("\n" ++ totalLine agents)

/-- Shows an agent, and its placements below if it has any. -/
def showAgent (c : Client) (name : String) : Session Unit := do
  let agent ← c.get (agentPath name) AgentView.ofJson
  match c.format with
  | .json => sayJson agent.toJson
  | .table => do
      Session.sayAll (agent.lines c.palette)
      let records ← c.placements name
      if records = [] then return ()
      else Session.sayAll ["", placementTable c.palette records]

def listPlacements (c : Client) (agent : String) : Session Unit := do
  let records ← c.placements agent
  match c.format with
  | .json => sayJson (.list PlacementView.toJson records)
  | .table => Session.say (placementTable c.palette records)

/-- The line that tells what came of a request. -/
def verdictLine (c : Client) (agent workload : String) : Verdict → String
  | .admitted record =>
      c.palette.success ("Workload " ++ record.workload ++ " admitted on " ++ agent ++ " at " ++
        record.admittedAt.tableText)
  | .rejected reason =>
      c.palette.warning ("Workload " ++ workload ++ " rejected by " ++ agent ++ ": " ++ reason.text)

/-- Places a workload; a rejection is no failure. -/
def place (c : Client) (agent : String) (order : Order) : Session Unit := do
  let reply ← c.ask "POST" (placementsPath agent) (some order.toJson)
  if ¬ reply.isSuccess ∧ reply.status ≠ 409 then .failed reply.failure
  else do
    let verdict ← readBody Verdict.ofJson reply
    match c.format with
    | .json => sayJson verdict.toJson
    | .table => Session.say (c.verdictLine agent order.workload verdict)

/-- Releases a workload, whether it is live or not. -/
def release (c : Client) (agent workload : String) : Session Unit := do
  let reply ← c.ask "DELETE" (placementPath agent workload) none
  if reply.isSuccess then
    Session.say (c.palette.success ("Workload " ++ workload ++ " released from " ++ agent))
  else .failed reply.failure

/-- Carries a command out. -/
def perform (c : Client) : Command → Session Unit
  | .listAgents => c.listAgents
  | .showAgent agent => c.showAgent agent
  | .listPlacements agent => c.listPlacements agent
  | .place agent workload cpuMillis memory gpuCount =>
      c.place agent { workload, cpuMillis, memory, gpuCount }
  | .release agent workload => c.release agent workload

end Client

/-! ## Whole calls -/

/-- The variables of the environment that the client looks at. -/
structure Environment where
  /-- The address of the daemon. -/
  apiUrl : Option String
  /-- Whether colours are wanted where there is no terminal; `0` and nothing mean no. -/
  forceColour : Option String

/-- Whether texts are coloured when they are not printed to a terminal. -/
def Environment.palette (e : Environment) : Palette :=
  { isOn := e.forceColour.isSome ∧ e.forceColour ≠ some "0" }

/-- The session of a call, with the text of the file of preferences if there is one. -/
def Invocation.session (i : Invocation) (e : Environment) (file : Option String) :
    Session Unit := do
  let preferences ← Preferences.load file
  let format ← preferences.format i.format
  let base ← Session.orFail "Invalid API URL" (Url.read? (preferences.url (i.apiUrl.or e.apiUrl)))
  Client.perform { base, palette := e.palette, format } i.command

/-- The text of a failure on the error stream: its first line. -/
def failureLine (message : String) : String :=
  "Error: " ++ String.ofList (message.toList.takeWhile (· ≠ '\n'))

end NodeFleet.Cli
