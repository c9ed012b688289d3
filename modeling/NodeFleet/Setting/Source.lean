import NodeFleet.Json.Parser
import NodeFleet.Setting
import NodeFleet.Toml

/-!
# Sources of settings

Settings come from files in JSON or TOML and from environment variables.  A file is a table
of settings.  A variable counts if its name starts with the prefix and an underscore; in the
rest of the name two underscores lead into a table, and letters count as lower case.
-/

namespace NodeFleet

namespace Setting

/-! ## Files -/

mutual

/-- The setting of a JSON value.  Integers beyond 64 bits with a sign become doubles. -/
def ofJson : Json → Setting
  | .null => .nothing
  | .bool b => .flag b
  | .number (.natural n) =>
      if n < integerBound then .integer n else .decimal (UInt64.ofNat n).toFloat
  | .number (.negative n) => .integer (0 - (n : Int))
  | .number (.double x) => .decimal x
  | .string s => .text s
  | .array items => .list (ofItems items)
  | .object entries => .table (Table.ofEntries (ofEntries entries))
  | .unreadable _ => .nothing

/-- `ofJson` on every item. -/
def ofItems : List Json → List Setting
  | [] => []
  | item :: rest => ofJson item :: ofItems rest

/-- `ofJson` on every entry. -/
def ofEntries : List (String × Json) → List (String × Setting)
  | [] => []
  | (key, value) :: rest => (key, ofJson value) :: ofEntries rest

end

/-- The formats of a file. -/
inductive Format where
  | json
  | toml
  deriving DecidableEq

/-- A text without the byte order mark at its start. -/
def withoutMark (text : String) : String :=
  match text.toList with
  | c :: rest => if c.toNat = 0xFEFF then String.ofList rest else text
  | [] => text

/-- The settings of a text in a format.  JSON admits no byte order mark. -/
def Format.read? : Format → String → Option Setting
  | .json, contents =>
      ((Json.parse? contents).filter fun value => value.depth < Json.depthLimit).map ofJson
  | .toml, contents => Toml.parse? (withoutMark contents)

/-- A file: its format and its text, if the file can be read. -/
structure File where
  format : Format
  /-- The text; `none` where there is no such file. -/
  text : Option String

/-- The entries of a file that is a table. -/
def File.entries? (file : File) : Option (List (String × Setting)) := do
  match ← file.format.read? (← file.text) with
  | .table entries => return entries
  | _ => none

/-! ## The environment -/

/-- The start of the names of variables that count, in lower case. -/
def variableStart : List Char :=
  "fleet_".toList

/-- A point for every two underscores. -/
def pointed : List Char → List Char
  | '_' :: '_' :: rest => '.' :: pointed rest
  | c :: rest => c :: pointed rest
  | [] => []

/-- The entry that a variable gives, if it counts. -/
def ofVariable? (name value : String) : Option (String × Setting) :=
  (Text.after? variableStart (lowerCase name).toList).map fun rest =>
    (String.ofList (pointed rest), ofPlain value)

/-! ## All sources -/

/-- Why sources give no settings. -/
inductive SourceFault where
  /-- The file is not there or is no table in its format. -/
  | unreadable
  /-- An entry is put at a position that lies nowhere in its list. -/
  | misplaced
  deriving DecidableEq

/-- The settings of a file, if there is one, with those of the environment over them. -/
def gather (file : Option File) (environment : List (String × String)) :
    Except SourceFault Setting :=
  match file.map File.entries? with
  | some none => .error .unreadable
  | found =>
      let entries := (found.bind id).getD []
      let named := environment.filterMap fun (name, value) => ofVariable? name value
      match (overlay? (.table []) entries).bind fun s => overlay? s named with
      | some settings => .ok settings
      | none => .error .misplaced

end Setting

end NodeFleet
