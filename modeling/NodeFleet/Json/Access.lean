import NodeFleet.Json.Decode

/-!
# Lenient access to JSON objects

Reading the fields of an object one at a time.  A field that is missing, `null` or of
another shape counts as absent, and the short forms put a default in its place: the empty
text, zero, false, the empty list, the empty object.
-/

namespace NodeFleet.Json

/-- The value of a field that is there and not `null`. -/
def at? (key : String) (value : Json) : Option Json :=
  match value.get? key with
  | some .null => none
  | found => found

/-- The text of a value. -/
def text? : Json → Option String
  | .string s => some s
  | _ => none

/-- The natural number of a value. -/
def nat? : Json → Option Nat
  | .number (.natural n) => some n
  | _ => none

/-- The integer of a value. -/
def int? : Json → Option Int
  | .number (.natural n) => some n
  | .number (.negative n) => some (0 - (n : Int))
  | _ => none

/-- The items of a value. -/
def items : Json → List Json
  | .array items => items
  | _ => []

/-- The text of a field, if it is there. -/
def textAt? (key : String) (value : Json) : Option String :=
  (value.at? key).bind text?

/-- The text of a field. -/
def textAt (key : String) (value : Json) : String :=
  (value.textAt? key).getD ""

/-- The natural number of a field, if it is there. -/
def natAt? (key : String) (value : Json) : Option Nat :=
  (value.at? key).bind nat?

/-- The natural number of a field. -/
def natAt (key : String) (value : Json) : Nat :=
  (value.natAt? key).getD 0

/-- The integer of a field, if it is there. -/
def intAt? (key : String) (value : Json) : Option Int :=
  (value.at? key).bind int?

/-- The integer of a field. -/
def intAt (key : String) (value : Json) : Int :=
  (value.intAt? key).getD 0

/-- The double of a field, if it is there. -/
def doubleAt? (key : String) (value : Json) : Option Float :=
  (value.at? key).bind fun value => (Decoder.double value).toOption

/-- The truth value of a field. -/
def flagAt (key : String) (value : Json) : Bool :=
  match value.at? key with
  | some (.bool b) => b
  | _ => false

/-- The items of a field. -/
def itemsAt (key : String) (value : Json) : List Json :=
  ((value.at? key).map items).getD []

/-- The texts among the items of a field. -/
def textsAt (key : String) (value : Json) : List String :=
  (value.itemsAt key).filterMap text?

/-- The object of a field. -/
def objectAt (key : String) (value : Json) : Json :=
  (value.at? key).getD (.object [])

/-- The entries of an object. -/
def entries : Json → List (String × Json)
  | .object entries => entries
  | _ => []

/-! ## Replacing parts -/

mutual

/-- Replaces parts of a value: `change` sees every part with the key that it stands under and
may put another value in its place, which is then left alone. -/
def replaceParts (change : String → Json → Option Json) (key : String) (value : Json) : Json :=
  match change key value with
  | some other => other
  | none =>
      match value with
      | .array items => .array (replaceItems change items)
      | .object entries => .object (replaceEntries change entries)
      | value => value

/-- `replaceParts` on items, which stand under no key. -/
def replaceItems (change : String → Json → Option Json) : List Json → List Json
  | [] => []
  | item :: rest => replaceParts change "" item :: replaceItems change rest

/-- `replaceParts` on entries. -/
def replaceEntries (change : String → Json → Option Json) :
    List (String × Json) → List (String × Json)
  | [] => []
  | (key, value) :: rest => (key, replaceParts change key value) :: replaceEntries change rest

end

end NodeFleet.Json
