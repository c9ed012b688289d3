import NodeFleet.DryRun

/-!
# The command line

Runs the client against a fleet in memory.  The fleet is configured as the daemon is: by the
file that `HOLLOW_FLEET_CONFIG` names and by the variables of the environment.  Only this
module reads and writes anything.
-/

namespace NodeFleet.Main

/-- The explanation of the usage. -/
def usageText : String :=
  "Usage: fleetctl [--api-url URL] [--format table|json] COMMAND\n\n" ++
    "Commands:\n" ++
    "  agents list\n" ++
    "  agents get AGENT\n" ++
    "  placements AGENT\n" ++
    "  place AGENT WORKLOAD [--cpu MILLICORES] [--memory QUANTITY] [--gpu COUNT]\n" ++
    "  release AGENT WORKLOAD\n"

/-- The variables of the environment that set an option of the daemon. -/
def variableNames : List String :=
  let group (name : String) (options : OptionList) : List String :=
    options.map fun option => "FLEET_" ++ name ++ "__" ++ option.1.toUpper
  "FLEET_API_PORT" :: group "FLEET" FleetConfig.options ++
    group "CONTROL_PLANE" PlaneConfig.options

/-- Reads a file, if it can be read. -/
def readText? (path : String) : IO (Option String) := do
  try
    return some (← IO.FS.readFile path)
  catch _ =>
    return none

/-- The file that configures the daemon, if one is named; its format goes by the end of its name. -/
def configFile : IO (Option Setting.File) := do
  match ← IO.getEnv "HOLLOW_FLEET_CONFIG" with
  | none => return none
  | some path =>
      return some { format := if path.endsWith ".json" then .json else .toml
                    text := ← readText? path }

/-- The variables of the environment that are set. -/
def environment : IO (List (String × String)) := do
  let found ← variableNames.mapM fun name => do
    return (← IO.getEnv name).map fun value => (name, value)
  return found.filterMap id

/-- The file of preferences, if there is one. -/
def preferences : IO (Option String) := do
  match ← IO.getEnv "HOME" with
  | some home => readText? (home ++ "/.config/fleetctl/config.json")
  | none => return none

/-- Carries a call out. -/
def perform (invocation : Cli.Invocation) : IO UInt32 := do
  match DaemonConfig.load (← configFile) (← environment) with
  | .error e =>
      IO.eprintln (Cli.failureLine e.message)
      return 1
  | .ok config =>
      match DryRun.start config (.ofMillis 0) with
      | .error e =>
          IO.eprintln (Cli.failureLine e.message)
          return 1
      | .ok fleet => do
          let wishes : Cli.Environment :=
            { apiUrl := ← IO.getEnv "FLEETCTL_API_URL"
              forceColour := ← IO.getEnv "CLICOLOR_FORCE" }
          let (transcript, _) := DryRun.run fleet (invocation.session wishes (← preferences))
          IO.print transcript.text
          match transcript.result with
          | .ok () => return 0
          | .error message =>
              IO.eprintln (Cli.failureLine message)
              return 1

end NodeFleet.Main

/-- Runs the client with the given arguments. -/
def main (args : List String) : IO UInt32 := do
  match NodeFleet.Cli.Invocation.read args with
  | .ok invocation => NodeFleet.Main.perform invocation
  | .error usage => do
      IO.print NodeFleet.Main.usageText
      return usage.exitCode.toUInt32
