import NodeFleet.Json
import NodeFleet.Decimal.Shortest

/-!
# Writing JSON text

`Json.compact` writes a value without blanks; `Json.pretty` puts every item and entry
on a line of its own, indented by two spaces for each level.
-/

namespace NodeFleet.Json

open NodeFleet.Text

/-- A lower-case hexadecimal digit. -/
def hexLower (n : Nat) : Char :=
  if n < 10 then Char.ofNat ('0'.toNat + n) else Char.ofNat ('a'.toNat + (n - 10))

/-- A character as it stands inside a string. -/
def escapeChar (c : Char) : List Char :=
  if c = '"' then ['\\', '"']
  else if c = '\\' then ['\\', '\\']
  else if c.toNat = 8 then ['\\', 'b']
  else if c = '\t' then ['\\', 't']
  else if c = '\n' then ['\\', 'n']
  else if c.toNat = 12 then ['\\', 'f']
  else if c = '\r' then ['\\', 'r']
  else if c.toNat < 0x20 then
    ['\\', 'u', '0', '0', hexLower (c.toNat / 16), hexLower (c.toNat % 16)]
  else [c]

/-- A text between quotation marks. -/
def quoted (text : String) : String :=
  "\"" ++ String.ofList (text.toList.flatMap escapeChar) ++ "\""

/-- A number.  A double that is a whole number keeps a fraction of zero; one that is no number is
written as `null`. -/
def Number.text : Number → String
  | .natural n => Numeral.text n
  | .negative n => "-" ++ Numeral.text n
  | .double x =>
      if x.isNaN || x.isInf then "null"
      else
        let text := Decimal.text x
        if text.contains '.' then text else text ++ ".0"

mutual

/-- Appends a value without blanks. -/
def compactOnto (front : String) : Json → String
  | .null => front ++ "null"
  | .bool true => front ++ "true"
  | .bool false => front ++ "false"
  | .number n => front ++ n.text
  | .string s => front ++ quoted s
  | .array items => compactItems (front ++ "[") true items ++ "]"
  | .object entries => compactEntries (front ++ "\x7b") true entries ++ "\x7d"
  | .unreadable _ => front

/-- Appends items, each but the first after a comma. -/
def compactItems (front : String) (isFirst : Bool) : List Json → String
  | [] => front
  | item :: rest =>
      compactItems (compactOnto (if isFirst then front else front ++ ",") item) false rest

/-- Appends entries, each but the first after a comma. -/
def compactEntries (front : String) (isFirst : Bool) : List (String × Json) → String
  | [] => front
  | (key, value) :: rest =>
      let front := (if isFirst then front else front ++ ",") ++ quoted key ++ ":"
      compactEntries (compactOnto front value) false rest

end

/-- A value without blanks. -/
def compact (value : Json) : String :=
  compactOnto "" value

/-- The start of a line at the given level. -/
def newline (level : Nat) : String :=
  "\n" ++ String.ofList (List.replicate (2 * level) ' ')

mutual

/-- Appends a value on several lines, its closing bracket at the given level. -/
def prettyOnto (level : Nat) (front : String) : Json → String
  | .array (item :: rest) =>
      let front := prettyOnto (level + 1) (front ++ "[" ++ newline (level + 1)) item
      prettyItems (level + 1) front rest ++ newline level ++ "]"
  | .object ((key, value) :: rest) =>
      let front := front ++ "\x7b" ++ newline (level + 1) ++ quoted key ++ ": "
      prettyEntries (level + 1) (prettyOnto (level + 1) front value) rest ++ newline level ++
        "\x7d"
  | value => compactOnto front value

/-- Appends items, each on a new line after a comma. -/
def prettyItems (level : Nat) (front : String) : List Json → String
  | [] => front
  | item :: rest =>
      prettyItems level (prettyOnto level (front ++ "," ++ newline level) item) rest

/-- Appends entries, each on a new line after a comma. -/
def prettyEntries (level : Nat) (front : String) : List (String × Json) → String
  | [] => front
  | (key, value) :: rest =>
      let front := front ++ "," ++ newline level ++ quoted key ++ ": "
      prettyEntries level (prettyOnto level front value) rest

end

/-- A value on several lines. -/
def pretty (value : Json) : String :=
  prettyOnto 0 "" value

end NodeFleet.Json
