import NodeFleet.Text.Numeral
import NodeFleet.Text.Split

/-!
# Arguments of the client

The client is called with options, a command and what belongs to the command.  An option may
have its value behind an equals sign or as the next argument; short options may have it
right behind their letter.  After `--` every argument counts as a plain one.  Arguments are
taken in their order, and the first that is wrong or asks for help decides.
-/

namespace NodeFleet.Cli

/-! ## Commands -/

/-- How results are shown. -/
inductive OutputFormat where
  | table
  | json
  deriving DecidableEq

def OutputFormat.name : OutputFormat → String
  | .table => "table"
  | .json => "json"

def OutputFormat.ofName? (name : String) : Option OutputFormat :=
  [OutputFormat.table, .json].find? fun format => format.name = name

/-- What the client is asked to do. -/
inductive Command where
  | listAgents
  | showAgent (agent : String)
  | listPlacements (agent : String)
  | place (agent workload : String) (cpuMillis : Nat) (memory : String) (gpuCount : Nat)
  | release (agent workload : String)
  deriving DecidableEq

/-- A call of the client. -/
structure Invocation where
  /-- The address of the daemon. -/
  apiUrl : Option String
  /-- How results are shown. -/
  format : Option OutputFormat
  command : Command
  deriving DecidableEq

/-- Why a call does nothing but explain the usage. -/
inductive Usage where
  /-- The explanation was asked for. -/
  | requested
  | wrong
  deriving DecidableEq

/-- The exit code of a call that explains the usage. -/
def Usage.exitCode : Usage → Nat
  | .requested => 0
  | .wrong => 2

/-! ## Options -/

/-- An option with a value. -/
structure OptionSpec where
  /-- The name after two hyphens. -/
  long : String
  /-- The letter after one hyphen. -/
  short : Option Char
  /-- Whether a text serves as value. -/
  accepts : String → Bool

/-- What may stand at a place of the command line. -/
structure Grammar where
  options : List OptionSpec
  /-- The names of options that ask for an explanation. -/
  questions : List String
  questionLetters : List Char
  /-- The number of plain arguments that are taken; the rest is left where `stops` is set. -/
  capacity : Nat
  /-- Whether what follows the plain arguments is left to the command. -/
  stops : Bool

/-- What was found at a place. -/
structure Findings where
  values : List (String × String) := []
  /-- The plain arguments, last first. -/
  plain : List String := []

/-- The value of an option that was found. -/
def Findings.value? (f : Findings) (key : String) : Option String :=
  (f.values.find? fun entry => entry.1 = key).map Prod.snd

/-- Takes a value for an option, unless it has one or the value does not serve. -/
def Findings.take (f : Findings) (spec : OptionSpec) (value : String) : Except Usage Findings :=
  if (f.value? spec.long).isSome ∨ ¬ spec.accepts value then .error .wrong
  else .ok { f with values := (spec.long, value) :: f.values }

/-- Whether an argument looks like an option. -/
def looksLikeOption (arg : String) : Bool :=
  arg.toList.head? = some '-' && arg ≠ "-"

/-- Takes the value of an option: the one attached to it, or the next argument. -/
def takeValue (f : Findings) (spec : OptionSpec) (attached : Option String) (rest : List String) :
    Except Usage (Findings × List String) :=
  match attached, rest with
  | some value, rest => (f.take spec value).map fun f => (f, rest)
  | none, value :: rest =>
      if looksLikeOption value then .error .wrong
      else (f.take spec value).map fun f => (f, rest)
  | none, [] => .error .wrong

/-- Takes an option with a long name, given without its hyphens. -/
def takeLong (g : Grammar) (f : Findings) (cs : List Char) (rest : List String) :
    Except Usage (Findings × List String) :=
  let (name, attached) := match Text.cut? '=' cs with
    | some (name, value) => (String.ofList name, some (String.ofList value))
    | none => (String.ofList cs, none)
  if g.questions.contains name then .error (if attached.isNone then .requested else .wrong)
  else
    match g.options.find? fun spec => spec.long = name with
    | some spec => takeValue f spec attached rest
    | none => .error .wrong

/-- Takes an option with a letter, given with what follows the letter. -/
def takeShort (g : Grammar) (f : Findings) (letter : Char) (cs : List Char) (rest : List String) :
    Except Usage (Findings × List String) :=
  if g.questionLetters.contains letter then .error .requested
  else
    match g.options.find? fun spec => spec.short = some letter with
    | none => .error .wrong
    | some spec =>
        let attached := match cs with
          | [] => none
          | '=' :: value => some (String.ofList value)
          | value => some (String.ofList value)
        takeValue f spec attached rest

/-- Takes plain arguments only. -/
def takePlain (g : Grammar) (f : Findings) (args : List String) : Except Usage Findings :=
  if g.stops ∧ args ≠ [] then .error .wrong
  else if g.capacity < f.plain.length + args.length then .error .wrong
  else .ok { f with plain := args.reverse ++ f.plain }

/-- Takes arguments in their order and returns what is left to the command. -/
def scan (g : Grammar) : Nat → Findings → List String → Except Usage (Findings × List String)
  | _, f, [] => .ok (f, [])
  | 0, f, rest => .ok (f, rest)
  | fuel + 1, f, arg :: rest =>
      match arg.toList with
      | ['-', '-'] => (takePlain g f rest).map fun f => (f, [])
      | '-' :: '-' :: cs => do
          let (f, rest) ← takeLong g f cs rest
          scan g fuel f rest
      | '-' :: letter :: cs => do
          let (f, rest) ← takeShort g f letter cs rest
          scan g fuel f rest
      | _ =>
          if g.stops then .ok (f, arg :: rest)
          else if f.plain.length < g.capacity then
            scan g fuel { f with plain := arg :: f.plain } rest
          else .error .wrong

/-! ## The commands' arguments -/

/-- The value of an option that is an unsigned 64-bit number. -/
def word? (value : String) : Option Nat :=
  Text.Numeral.word? value.toList

/-- The options in front of the command. -/
def frontGrammar : Grammar :=
  { options :=
      [⟨"api-url", none, fun _ => true⟩,
        ⟨"format", some 'f', fun value => (OutputFormat.ofName? value).isSome⟩]
    questions := ["help", "version"]
    questionLetters := ['h', 'V']
    capacity := 0
    stops := true }

/-- What may follow a command with the given plain arguments and options. -/
def commandGrammar (capacity : Nat) (options : List OptionSpec) : Grammar :=
  { options, questions := ["help"], questionLetters := ['h'], capacity, stops := false }

/-- What may follow the name of a group of commands. -/
def groupGrammar : Grammar :=
  { commandGrammar 0 [] with stops := true }

/-- The options of a request to place a workload. -/
def orderOptions : List OptionSpec :=
  [⟨"cpu", none, fun value => (word? value).isSome⟩, ⟨"memory", none, fun _ => true⟩,
    ⟨"gpu", none, fun value => (word? value).isSome⟩]

/-- Takes all arguments at a place. -/
def takeAll (g : Grammar) (args : List String) : Except Usage (Findings × List String) :=
  scan g (args.length + 1) {} args

/-- The words that may follow a request for help: the name of a command, or of a group and a command
in it. -/
def isTopic : List String → Bool
  | [] => true
  | [name] => ["agents", "placements", "place", "release", "help"].contains name
  | ["agents", name] => ["list", "get", "help"].contains name
  | _ => false

/-- The outcome of a request for help. -/
def help (topic : List String) : Usage :=
  if isTopic topic then .requested else .wrong

/-- Reads a command about an agent alone. -/
def readAgent (make : String → Command) (args : List String) : Except Usage Command := do
  match (← takeAll (commandGrammar 1 []) args).1.plain with
  | [agent] => return make agent
  | _ => throw .wrong

/-- Reads a command about the agents. -/
def readAgents (args : List String) : Except Usage Command := do
  match (← takeAll groupGrammar args).2 with
  | "list" :: rest =>
      let _ ← takeAll (commandGrammar 0 []) rest
      return .listAgents
  | "get" :: rest => readAgent .showAgent rest
  | "help" :: topic => throw (help ("agents" :: topic))
  | _ => throw .wrong

/-- Reads a request to place a workload; what is not given is zero. -/
def readPlace (args : List String) : Except Usage Command := do
  let found := (← takeAll (commandGrammar 2 orderOptions) args).1
  let number (key : String) : Nat := ((found.value? key).bind word?).getD 0
  match found.plain with
  | [workload, agent] =>
      return .place agent workload (number "cpu") ((found.value? "memory").getD "0") (number "gpu")
  | _ => throw .wrong

/-- Reads a request to release a workload. -/
def readRelease (args : List String) : Except Usage Command := do
  match (← takeAll (commandGrammar 2 []) args).1.plain with
  | [workload, agent] => return .release agent workload
  | _ => throw .wrong

/-- Reads a command and its arguments. -/
def readCommand : List String → Except Usage Command
  | "agents" :: rest => readAgents rest
  | "placements" :: rest => readAgent .listPlacements rest
  | "place" :: rest => readPlace rest
  | "release" :: rest => readRelease rest
  | "help" :: topic => .error (help topic)
  | _ => .error .wrong

/-- Reads a whole command line. -/
def Invocation.read (args : List String) : Except Usage Invocation := do
  let (found, rest) ← takeAll frontGrammar args
  let command ← readCommand rest
  return { apiUrl := found.value? "api-url"
           format := (found.value? "format").bind OutputFormat.ofName?
           command }

end NodeFleet.Cli
