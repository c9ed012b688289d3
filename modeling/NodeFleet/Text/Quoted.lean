import NodeFleet.Text.Attached
import NodeFleet.Text.Formless

/-!
# Quoted text

Names in messages and in the journal's lists stand between quotation marks.  A mark or a
backslash inside is escaped, the usual control characters have short escapes, and
every other character that would not show as itself is written by its number.
-/

namespace NodeFleet.Text.Quoted

/-- Whether a character shows as itself: it has a form and does not attach to what stands before
it. -/
def isSeen (c : Char) : Bool :=
  !isFormless c && !isAttached c

/-- Lower-case hexadecimal digits without leading zeros. -/
def hexText (n : Nat) : String :=
  String.ofList (Nat.toDigits 16 n)

/-- A character as it stands inside quotation marks. -/
def escape (c : Char) : String :=
  if c = '"' then "\\\""
  else if c = '\\' then "\\\\"
  else if c = '\n' then "\\n"
  else if c = '\r' then "\\r"
  else if c = '\t' then "\\t"
  else if c.toNat = 0 then "\\0"
  else if isSeen c then c.toString
  else "\\u\x7b" ++ hexText c.toNat ++ "\x7d"

/-- A text between quotation marks. -/
def quote (text : String) : String :=
  "\"" ++ String.join (text.toList.map escape) ++ "\""

/-- A path between quotation marks: apostrophes are escaped as well. -/
def quotePath (path : String) : String :=
  let escapeAll (c : Char) : String := if c = '\'' then "\\'" else escape c
  "\"" ++ String.join (path.toList.map escapeAll) ++ "\""

/-- A list of texts between brackets. -/
def quoteList (texts : List String) : String :=
  "[" ++ ", ".intercalate (texts.map quote) ++ "]"

end NodeFleet.Text.Quoted
