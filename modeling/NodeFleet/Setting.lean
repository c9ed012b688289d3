import NodeFleet.Table
import NodeFleet.Text.Numeral
import NodeFleet.Decimal.Shortest
import NodeFleet.Decimal.Read

/-!
# Settings

A setting is a value as a configuration source gives it.  Sources are loosely typed: an
environment variable is only text, and a file may write a number as a text or the other
way round.  The functions here say which settings serve as a number, as a truth word or
as a text, and how a setting is put at a path of names and positions into a tree of
settings.  A table put over a table is merged with it; anything else takes the place of
what was there.  Names in a table differ by more than the case of their letters.
-/

namespace NodeFleet

/-- A value as a configuration source gives it. -/
inductive Setting where
  | nothing
  /-- A truth value. -/
  | flag (b : Bool)
  /-- A signed 64-bit integer. -/
  | integer (n : Int)
  | decimal (x : Float)
  | text (s : String)
  | list (items : List Setting)
  | table (entries : List (String × Setting))

namespace Setting

/-! ## What a setting serves as -/

/-- A letter in lower case where that is one of the English letters: besides the capital letters
the Kelvin sign. -/
def lowerChar (c : Char) : Char :=
  if c.toNat = 0x212A then 'k' else c.toLower

/-- A text with its letters in lower case. -/
def lowerCase (s : String) : String :=
  String.ofList (s.toList.map lowerChar)

/-- The truth value that a word stands for. -/
def truthWord? (s : String) : Option Bool :=
  let word := lowerCase s
  if word = "true" ∨ word = "on" ∨ word = "yes" then some true
  else if word = "false" ∨ word = "off" ∨ word = "no" then some false
  else none

/-- The bound that signed 64-bit integers stay below. -/
def integerBound : Nat := 2 ^ 63

/-- The integer of a sign, if wanted, and digits, within 64 bits. -/
def readInteger? : List Char → Option Int
  | '-' :: digits =>
      ((Text.Numeral.digits? digits).filter (· ≤ integerBound)).map fun n => 0 - (n : Int)
  | digits => (Text.Numeral.below? integerBound digits).map fun n => (n : Int)

/-- A double rounded to a natural number, a half away from zero, and clamped to 64 bits. -/
def roundedWord (x : Float) : Nat :=
  x.round.toUInt64.toNat

/-- The natural number that a setting serves as. -/
def natural? : Setting → Option Nat
  | .integer n => if n < 0 then none else some n.natAbs
  | .flag b => some b.toNat
  | .decimal x => some (roundedWord x)
  | .text s =>
      match truthWord? s with
      | some b => some b.toNat
      | none => Text.Numeral.word? s.toList
  | _ => none

/-- The double nearest to an integer of at most 64 bits. -/
def doubleOf (n : Int) : Float :=
  let size := (UInt64.ofNat n.natAbs).toFloat
  if n < 0 then -size else size

/-- The double that a setting serves as. -/
def double? : Setting → Option Float
  | .decimal x => some x
  | .integer n => some (doubleOf n)
  | .flag b => some (if b then 1.0 else 0.0)
  | .text s =>
      match truthWord? s with
      | some b => some (if b then 1.0 else 0.0)
      | none => Decimal.read? s.toList
  | _ => none

/-- The text that a setting serves as. -/
def text? : Setting → Option String
  | .text s => some s
  | .flag b => some (if b then "true" else "false")
  | .integer n => some (Text.Numeral.signedText n)
  | .decimal x => some (Decimal.text x)
  | _ => none

/-- The setting that a plain text denotes: a truth value, an integer, a double, or else itself. -/
def ofPlain (s : String) : Setting :=
  let word := lowerCase s
  if word = "true" then .flag true
  else if word = "false" then .flag false
  else
    match readInteger? s.toList with
    | some n => .integer n
    | none =>
        match Decimal.read? s.toList with
        | some x => .decimal x
        | none => .text s

/-! ## Merging -/

/-- The entries of a table; another setting has none. -/
def entries : Setting → List (String × Setting)
  | .table entries => entries
  | _ => []

/-- The items of a list; another setting has none. -/
def items : Setting → List Setting
  | .list items => items
  | _ => []

/-- The setting of a name. -/
def find? (key : String) (s : Setting) : Option Setting :=
  Table.find? key s.entries

mutual

/-- The setting that takes the place of `old` when `new` is put there: tables are merged. -/
def merged (old : Setting) : Setting → Setting
  | .table additions =>
      match old, additions with
      | .table entries, additions => .table (mergedEntries entries additions)
      | old, [] => old
      | _, additions => .table (mergedEntries [] additions)
  | new => new

/-- Puts each addition at its name in lower case. -/
def mergedEntries (entries : List (String × Setting)) :
    List (String × Setting) → List (String × Setting)
  | [] => entries
  | (key, value) :: rest =>
      let name := lowerCase key
      let old := (Table.find? name entries).getD (.table [])
      mergedEntries (Table.insert name (merged old value) entries) rest

end

/-! ## Paths -/

/-- One step of a path into a tree of settings. -/
inductive Step where
  | name (key : String)
  /-- To the item at a position; a negative one counts from the end of the list. -/
  | position (index : Int)

/-- The bound that the number of items of a list stays below. -/
def lengthBound : Nat := 2 ^ 31

/-- Where a position lies in a list of a length: in it, behind it, or nowhere if it is in front of
the list or farther behind it than any list reaches. -/
def place? (length : Nat) (index : Int) : Option Nat :=
  if index < 0 then
    if index.natAbs ≤ length then some (length - index.natAbs) else none
  else if index.natAbs < lengthBound then some index.natAbs
  else none

/-- A list with an item at a place, made long enough to have one there. -/
def withItem (items : List Setting) (place : Nat) (item : Setting) : List Setting :=
  if place < items.length then items.set place item
  else items ++ List.replicate (place - items.length) .nothing ++ [item]

/-- Puts a setting at the end of a path.  What stands in the way of the path gives way to an empty
table or list.  There is no result if a position lies nowhere. -/
def put? (value : Setting) : List Step → Setting → Option Setting
  | [], _ => some value
  | [.name key], s => some (merged s (.table [(key, value)]))
  | .name key :: rest, s => do
      let name := lowerCase key
      let inner ← put? value rest ((s.find? name).getD .nothing)
      return .table (Table.insert name inner s.entries)
  | .position index :: rest, s => do
      let place ← place? s.items.length index
      let item ← put? value rest (s.items[place]?.getD .nothing)
      return .list (withItem s.items place item)

/-- The characters of a name in a path. -/
def isNameChar (c : Char) : Bool :=
  c.isAlphanum || c = '_' || c = '-' || c = ' '

/-- The position of a minus sign, if wanted, and digits, within 64 bits. -/
def readPosition? (cs : List Char) : Option Int :=
  match cs with
  | c :: _ => if c = '+' then none else readInteger? cs
  | [] => none

/-- Reads the steps after the first name: a name after a point or a position between brackets. -/
def readSteps? : Nat → List Char → Option (List Step)
  | _, [] => some []
  | 0, _ => none
  | fuel + 1, '.' :: rest =>
      match rest.takeWhile isNameChar with
      | [] => none
      | name =>
          (readSteps? fuel (rest.dropWhile isNameChar)).map fun steps =>
            .name (String.ofList name) :: steps
  | fuel + 1, '[' :: rest =>
      let isBlank (c : Char) : Bool := c = ' ' || c = '\t'
      let isFigure (c : Char) : Bool := c.isDigit || c = '-'
      let figures := rest.dropWhile isBlank
      match (figures.dropWhile isFigure).dropWhile isBlank with
      | ']' :: rest => do
          let index ← readPosition? (figures.takeWhile isFigure)
          return .position index :: (← readSteps? fuel rest)
      | _ => none
  | _ + 1, _ => none

/-- The path that a name at the top of a source denotes.  A name that does not read as a path is
one step. -/
def path (key : String) : List Step :=
  let cs := key.toList
  let whole := [Step.name key]
  match cs.takeWhile isNameChar with
  | [] => whole
  | name =>
      match readSteps? cs.length (cs.dropWhile isNameChar) with
      | some steps => .name (String.ofList name) :: steps
      | none => whole

/-- Puts the entries of a source over the settings of the sources before it. -/
def overlay? (base : Setting) (source : List (String × Setting)) : Option Setting :=
  source.foldlM (fun s entry => put? entry.2 (path entry.1) s) base

end Setting

end NodeFleet
