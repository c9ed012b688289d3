import NodeFleet.Cli

/-!
# Calls against fixed replies

A server that gives fixed replies to fixed requests, and the whole of what a call of the
client against it comes to: the exit code, what is printed, and what the server was asked.
-/

namespace NodeFleet.Cli

open Json

/-- A reply and the request that it is given to. -/
structure FixedReply where
  method : String
  /-- The path of the request, with the query. -/
  path : String
  reply : Reply

/-- The port of the server. -/
def replayPort : Nat := 49152

/-- The address of the server. -/
def replayAddress : String :=
  "http://127.0.0.1:" ++ Text.Numeral.text replayPort

/-- Whether an address leads to the server. -/
def leadsToReplay (u : Url) : Bool :=
  u.scheme = "http" && u.host = some (.four (127 * 256 ^ 3 + 1)) &&
    u.effectivePort? = some replayPort

/-- The reply to a request: the first one given for it, and otherwise that nothing is found. -/
def replay (replies : List FixedReply) (r : Request) : Option Reply :=
  if leadsToReplay r.url then
    let found := replies.find? fun fixed => fixed.method = r.method ∧ fixed.path = r.url.target
    some ((found.map FixedReply.reply).getD { status := 404, body := "" })
  else none

/-- What a call comes to. -/
structure CallReport where
  exitCode : Nat
  /-- What is printed, unless it explains the usage. -/
  printed : Option String
  /-- The first line on the error stream, if the call fails. -/
  failure : Option String
  /-- What the server was asked; requests that do not reach it are not among them. -/
  requests : List Request

/-- Carries a call out against fixed replies. -/
def callReplay (args : List String) (e : Environment) (file : Option String)
    (replies : List FixedReply) : CallReport :=
  match Invocation.read args with
  | .error usage =>
      { exitCode := usage.exitCode, printed := none, failure := none, requests := [] }
  | .ok invocation =>
      let server (r : Request) (s : Unit) : Option Reply × Unit := (replay replies r, s)
      let (transcript, ()) := (invocation.session e file).run server ()
      let (exitCode, failure) := match transcript.result with
        | .ok () => (0, none)
        | .error message => (1, some (failureLine message))
      { exitCode, printed := some transcript.text, failure,
        requests := transcript.requests.reverse.filter fun r => leadsToReplay r.url }

/-- The form of a request: its method, its path and its body. -/
def Request.toJson (r : Request) : Json :=
  .array [.string r.method, .string r.url.target, r.body.getD .null]

/-- The form of what a call comes to. -/
def CallReport.toJson (r : CallReport) : Json :=
  .object [("exit", .nat r.exitCode), ("stdout", .option .string r.printed),
    ("error", .option .string r.failure), ("requests", .list Request.toJson r.requests)]

end NodeFleet.Cli
