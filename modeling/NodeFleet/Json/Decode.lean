import NodeFleet.Json
import NodeFleet.Power

/-!
# Typed decoding of JSON values

A decoder turns a value into a typed one or refuses it.  `Record` describes the fields of a
structure in their order of declaration.  A record is read from an object, whose
entries are examined in the order of the text: unknown keys are passed over, a
repeated key and a missing field are refused.  It is also read from an array of the
fields in order.

Fields come in three kinds: `field` must be there, `optional` is absent or `null` for
"none", and `withDefault` takes a default where it is absent.
-/

namespace NodeFleet.Json

/-- Why a value is refused. -/
inductive Refusal where
  /-- The text stops being JSON, or denotes no value, where a value was wanted. -/
  | unreadable
  /-- The value has another shape than the one wanted. -/
  | mismatch
  /-- The value has the right shape and is refused for the reason given. -/
  | invalid (reason : String)
  deriving DecidableEq

/-- A way to read values of a type. -/
abbrev Decoder (α : Type) := Json → Except Refusal α

namespace Decoder

variable {α β : Type}

/-- Refuses a value for its shape, or as unreadable if it cannot be read at all. -/
def refuse : Decoder α
  | .unreadable _ => .error .unreadable
  | _ => .error .mismatch

/-- Passes over the value of an entry whose key is wanted for nothing but must be a text. -/
def skip (value : Json) : Except Refusal Unit :=
  match value with
  | .unreadable .keyless => .error .unreadable
  | value => if value.passable then .ok () else .error .unreadable

/-- A natural number below `bound`. -/
def natBelow (bound : Nat) : Decoder Nat
  | .number (.natural n) => if n < bound then .ok n else .error .mismatch
  | value => refuse value

/-- An unsigned 64-bit word. -/
def word : Decoder Nat :=
  natBelow (2 ^ 64)

/-- An unsigned 32-bit word. -/
def word32 : Decoder Nat :=
  natBelow (2 ^ 32)

/-- A signed 64-bit integer. -/
def integer : Decoder Int
  | .number (.natural n) => if n < 2 ^ 63 then .ok n else .error .mismatch
  | .number (.negative n) => .ok (0 - (n : Int))
  | value => refuse value

/-- A double; integers are taken as doubles. -/
def double : Decoder Float
  | .number (.natural n) => .ok (UInt64.ofNat n).toFloat
  | .number (.negative n) => .ok (-(UInt64.ofNat n).toFloat)
  | .number (.double x) => .ok x
  | value => refuse value

/-- A text. -/
def string : Decoder String
  | .string s => .ok s
  | value => refuse value

/-- A truth value. -/
def bool : Decoder Bool
  | .bool b => .ok b
  | value => refuse value

/-- `null` for "none". -/
def option (decode : Decoder α) : Decoder (Option α)
  | .null => .ok none
  | value => (decode value).map some

/-- A list of values. -/
def list (decode : Decoder α) : Decoder (List α)
  | .array items => items.mapM decode
  | value => refuse value

/-- An object of values of one type; the last of a repeated key counts. -/
def table (decode : Decoder α) : Decoder (Table α)
  | .object entries => do
      let entries ← entries.mapM fun entry => return (entry.1, ← decode entry.2)
      return Table.ofEntries entries
  | value => refuse value

/-- One of a list of named values: its name, or an object of the name and `null`. -/
def named (name : α → String) (all : List α) : Decoder α
  | .string s => pick s
  | .object [(key, .null)] => pick key
  | value => refuse value
where
  /-- The value with the given name. -/
  pick (s : String) : Except Refusal α :=
    match all.find? fun a => name a = s with
    | some a => .ok a
    | none => .error .mismatch

/-- One of a list of named values as a part of a tagged value, where an empty object does as well
as `null`. -/
def namedPart (name : α → String) (all : List α) : Decoder α
  | .object [(key, .object [])] => named.pick name all key
  | value => named name all value

end Decoder

/-! ## Records -/

/-- One field of a record as the reader needs it. -/
structure FieldSpec where
  key : String
  /-- Accepts the values that the field can take. -/
  check : Json → Except Refusal Unit
  /-- Whether the record can be read from an array without the field. -/
  hasDefault : Bool

/-- The fields of a record in their order, and the record made of the values found for them. -/
structure Record (α : Type) where
  /-- The fields in their order of declaration. -/
  fields : List FieldSpec
  /-- Makes the record from the values of the keys that were given. -/
  build : (String → Option Json) → Except Refusal α

namespace Record

variable {α β : Type}

/-- The record without fields. -/
def const (a : α) : Record α :=
  { fields := [], build := fun _ => .ok a }

/-- Adds a field that must be there. -/
def field (r : Record (β → α)) (key : String) (decode : Decoder β) : Record α :=
  { fields := r.fields ++ [⟨key, fun value => (decode value).map fun _ => (), false⟩]
    build := fun found => do
      let make ← r.build found
      match found key with
      | some value => return make (← decode value)
      | none => throw .mismatch }

/-- Adds a field that stands for "none" where it is absent or `null`. -/
def optional (r : Record (Option β → α)) (key : String) (decode : Decoder β) : Record α :=
  { fields := r.fields ++ [⟨key, fun value => (Decoder.option decode value).map fun _ => (), false⟩]
    build := fun found => do
      let make ← r.build found
      match found key with
      | some value => return make (← Decoder.option decode value)
      | none => return make none }

/-- Adds a field that takes a default where it is absent. -/
def withDefault (r : Record (β → α)) (key : String) (decode : Decoder β) (default : β) : Record α :=
  { fields := r.fields ++ [⟨key, fun value => (decode value).map fun _ => (), true⟩]
    build := fun found => do
      let make ← r.build found
      match found key with
      | some value => return make (← decode value)
      | none => return make default }

/-- Examines entries in their order; `seen` are the keys that came before. -/
def checkEntries (fields : List FieldSpec) (seen : List String) :
    List (String × Json) → Except Refusal Unit
  | [] => .ok ()
  | (key, value) :: rest =>
      match fields.find? fun field => field.key = key with
      | none => do
          Decoder.skip value
          checkEntries fields seen rest
      | some field =>
          if seen.contains key then .error .mismatch
          else do
            field.check value
            checkEntries fields (key :: seen) rest

/-- Pairs the items of an array with the fields in order.  Every field without a value must have
a default.  The array counts as ill-formed if an item is left over. -/
def pairItems : List FieldSpec → List Json → Except Refusal (List (String × Json))
  | [], [] => .ok []
  | [], _ :: _ => .error .unreadable
  | field :: fields, [] => if field.hasDefault then pairItems fields [] else .error .mismatch
  | field :: fields, item :: items => do
      field.check item
      let pairs ← pairItems fields items
      return (field.key, item) :: pairs

/-- The value of the first pair with the given key. -/
def lookup (pairs : List (String × Json)) (key : String) : Option Json :=
  (pairs.find? fun pair => pair.1 = key).map Prod.snd

/-- Reads the record from the entries of an object. -/
def ofEntries (r : Record α) (entries : List (String × Json)) : Except Refusal α := do
  checkEntries r.fields [] entries
  r.build (lookup entries)

/-- Reads the record from the items of an array. -/
def ofItems (r : Record α) (items : List Json) : Except Refusal α := do
  let pairs ← pairItems r.fields items
  r.build (lookup pairs)

/-- Reads the record from an object or an array. -/
def decode (r : Record α) : Decoder α
  | .object entries => r.ofEntries entries
  | .array items => r.ofItems items
  | value => Decoder.refuse value

end Record

/-! ## Values of several forms, told apart by one field -/

/-- The forms of a value by name, in order. -/
abbrev Forms (α : Type) := List (String × Record α)

/-- The form that a tag stands for: the one of that name, or if wanted the one at that place in the
order. -/
def Forms.find? {α : Type} (forms : Forms α) (byNumber : Bool) : Json → Option (Record α)
  | .string name => forms.lookup name
  | .number (.natural n) => if byNumber then (forms[n]?).map Prod.snd else none
  | _ => none

/-- Reads the rest of a value whose tag has been found. -/
def Forms.decode {α : Type} (forms : Forms α) (byNumber : Bool) (tag : Json)
    (read : Record α → Except Refusal α) : Except Refusal α :=
  match forms.find? byNumber tag with
  | some form => read form
  | none => .error .mismatch

/-- Reads a value whose form is told by the field `tag`, from an object or from an array with the
tag first.  The value is kept in memory before its form is known, so everything in it must be
readable and its depth is limited.  A tag is a name; if `byNumber`, a number does as well. -/
def decodeTagged {α : Type} (tag : String) (byNumber : Bool) (forms : Forms α) : Decoder α :=
  fun value =>
    if !value.readable || depthLimit ≤ value.depth then .error .unreadable
    else
      match value with
      | .object entries =>
          match entries.filter fun entry => entry.1 = tag with
          | [(_, found)] =>
              forms.decode byNumber found fun form =>
                form.ofEntries (entries.filter fun entry => entry.1 ≠ tag)
          | _ => .error .mismatch
      | .array (found :: rest) => forms.decode byNumber found fun form => form.ofItems rest
      | value => Decoder.refuse value

/-! ## Whole texts -/

/-- Reads a value from a whole text; nothing but blanks may follow it. -/
def decodeWhole {α : Type} (decode : Decoder α) (parsed : Json × Bool) : Except Refusal α := do
  let a ← decode parsed.1
  if parsed.2 then return a else throw .unreadable

end NodeFleet.Json
