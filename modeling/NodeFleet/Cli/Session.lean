import NodeFleet.Json
import NodeFleet.Url

/-!
# Sessions of the client

A session prints lines and asks a server, and goes on with what the server replies.  It is
a value: `Session.run` carries it out against any server, and what is printed and asked for
can be read off it without one.
-/

namespace NodeFleet.Cli

/-- What a server is asked. -/
structure Request where
  method : String
  url : Url
  /-- The body, if there is one. -/
  body : Option Json

/-- What a server replies. -/
structure Reply where
  status : Nat
  body : String
  deriving DecidableEq

/-- Whether a reply tells of a success. -/
def Reply.isSuccess (r : Reply) : Bool :=
  200 ≤ r.status && r.status < 300

/-- What is left to do for a value. -/
inductive Session (α : Type) where
  | done (a : α)
  | failed (message : String)
  | print (line : String) (next : Session α)
  /-- Ask the server and go on with its reply, or with none if it cannot be reached. -/
  | ask (request : Request) (next : Option Reply → Session α)

namespace Session

variable {α β σ : Type}

/-- Goes on with the value of a session. -/
def andThen (go : α → Session β) : Session α → Session β
  | .done a => go a
  | .failed message => .failed message
  | .print line next => .print line (andThen go next)
  | .ask request next => .ask request fun reply => andThen go (next reply)

instance : Monad Session where
  pure := .done
  bind session go := session.andThen go

/-- Prints a line. -/
def say (line : String) : Session Unit :=
  .print line (.done ())

/-- Prints lines. -/
def sayAll : List String → Session Unit
  | [] => .done ()
  | line :: rest => .print line (sayAll rest)

/-- Asks the server. -/
def send (request : Request) : Session (Option Reply) :=
  .ask request .done

/-- The value of a result, or the failure of the session. -/
def orFail (message : String) : Option α → Session α
  | some a => .done a
  | none => .failed message

/-! ## Carrying sessions out -/

/-- What came of a session. -/
structure Transcript (α : Type) where
  /-- The printed lines, last first. -/
  printed : List String := []
  /-- What the server was asked, last first. -/
  requests : List Request := []
  /-- The value, or the message of the failure. -/
  result : Except String α

def Transcript.text (t : Transcript α) : String :=
  String.join (t.printed.reverse.map fun line => line ++ "\n")

/-- Carries a session out against a server, which has a state of its own.  `printed` and
`requests` are what came before. -/
def runFrom (server : Request → σ → Option Reply × σ) (printed : List String)
    (requests : List Request) (s : σ) : Session α → Transcript α × σ
  | .done a => ({ printed, requests, result := .ok a }, s)
  | .failed message => ({ printed, requests, result := .error message }, s)
  | .print line next => runFrom server (line :: printed) requests s next
  | .ask request next =>
      let (reply, s) := server request s
      runFrom server printed (request :: requests) s (next reply)

/-- Carries a session out. -/
def run (server : Request → σ → Option Reply × σ) (s : σ) (session : Session α) :
    Transcript α × σ :=
  runFrom server [] [] s session

end Session

end NodeFleet.Cli
