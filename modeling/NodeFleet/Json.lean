import NodeFleet.Table

/-!
# JSON values

The value type shared by the reader, the printer and the typed decoders.  Numbers
keep the distinction that the decoders make: a natural 64-bit word, a negative
64-bit integer, or a double.  Object entries stay in the order of the text, with
repeated keys kept, because a decoder refuses what it meets first.

A text may stop being JSON in its middle.  The reader then still returns the part
before that point, with `unreadable` standing where it stopped, so that a decoder
that refuses an earlier part for its shape says so.
-/

namespace NodeFleet

/-- A number as its text denotes it. -/
inductive Json.Number where
  /-- An unsigned 64-bit word. -/
  | natural (n : Nat)
  /-- Minus `n`, for `n` from 1 to `2 ^ 63`. -/
  | negative (n : Nat)
  /-- A number with a fraction or an exponent, or one that is no 64-bit integer. -/
  | double (x : Float)

/-- Why a point of a text is no value. -/
inductive Json.Defect where
  /-- The text stops being JSON. -/
  | broken
  /-- The text is JSON and denotes no value: a number too large for a double, half of a surrogate
  pair. -/
  | valueless
  /-- The text is the key of an entry and denotes no text.  The value of the entry follows under an
  empty key. -/
  | keyless
  deriving DecidableEq

/-- A JSON value. -/
inductive Json where
  /-- The literal `null`. -/
  | null
  /-- A truth value. -/
  | bool (b : Bool)
  | number (n : Json.Number)
  | string (s : String)
  | array (items : List Json)
  /-- Entries in the order of the text. -/
  | object (entries : List (String × Json))
  /-- A point that cannot be read. -/
  | unreadable (defect : Json.Defect)

namespace Json

/-- The number of a natural number. -/
def nat (n : Nat) : Json := .number (.natural n)

/-- The number of an integer. -/
def int (n : Int) : Json :=
  if n < 0 then .number (.negative n.natAbs) else .number (.natural n.natAbs)

/-- A value or `null`. -/
def option {α : Type} (encode : α → Json) : Option α → Json
  | none => .null
  | some a => encode a

/-- A list of values. -/
def list {α : Type} (encode : α → Json) (items : List α) : Json :=
  .array (items.map encode)

/-- The object of a table. -/
def table {α : Type} (encode : α → Json) (entries : Table α) : Json :=
  .object (entries.map fun entry => (entry.1, encode entry.2))

mutual

/-- Whether a reader can pass over the value: the text of it is JSON. -/
def passable : Json → Bool
  | .array items => passableItems items
  | .object entries => passableEntries entries
  | .unreadable defect => defect ≠ .broken
  | _ => true

/-- Whether a reader can pass over every item. -/
def passableItems : List Json → Bool
  | [] => true
  | item :: rest => item.passable && passableItems rest

/-- Whether a reader can pass over every entry. -/
def passableEntries : List (String × Json) → Bool
  | [] => true
  | (_, value) :: rest => value.passable && passableEntries rest

end

mutual

/-- Whether the whole value was read and every part of it denotes a value. -/
def readable : Json → Bool
  | .array items => readableItems items
  | .object entries => readableEntries entries
  | .unreadable _ => false
  | _ => true

/-- Whether every item is readable. -/
def readableItems : List Json → Bool
  | [] => true
  | item :: rest => item.readable && readableItems rest

/-- Whether every entry is readable. -/
def readableEntries : List (String × Json) → Bool
  | [] => true
  | (_, value) :: rest => value.readable && readableEntries rest

end

mutual

/-- The number of arrays and objects around the innermost value. -/
def depth : Json → Nat
  | .array items => depthItems items + 1
  | .object entries => depthEntries entries + 1
  | _ => 0

/-- The greatest depth among items. -/
def depthItems : List Json → Nat
  | [] => 0
  | item :: rest => max item.depth (depthItems rest)

/-- The greatest depth among entries. -/
def depthEntries : List (String × Json) → Nat
  | [] => 0
  | (_, value) :: rest => max value.depth (depthEntries rest)

end

/-- The depth that no value reaches which is kept in memory as it stands. -/
def depthLimit : Nat := 128

mutual

/-- The value with the entries of every object in the order of their keys, the last of a
repeated key kept. -/
def sorted : Json → Json
  | .array items => .array (sortedItems items)
  | .object entries => .object (Table.ofEntries (sortedEntries entries))
  | value => value

/-- `sorted` on every item. -/
def sortedItems : List Json → List Json
  | [] => []
  | item :: rest => item.sorted :: sortedItems rest

/-- `sorted` on every entry's value. -/
def sortedEntries : List (String × Json) → List (String × Json)
  | [] => []
  | (key, value) :: rest => (key, value.sorted) :: sortedEntries rest

end

/-- The value of the first entry with the given key. -/
def get? (key : String) : Json → Option Json
  | .object entries => entries.find? (fun entry => entry.1 = key) |>.map Prod.snd
  | _ => none

end Json

end NodeFleet
