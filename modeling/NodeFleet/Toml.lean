import NodeFleet.Toml.Scalar

/-!
# TOML documents

A document is a list of entries `key = value` under headers `[table]` and `[[item]]`.
`Toml.parse?` gives its settings.

A table may be written once only.  `Node` therefore keeps how a table came to be: a header may
complete a table that only the headers of its subtables mentioned so far, and a key of
several parts may only enter tables that such keys made.

A finished table whose first key is `momentKey` stands for the date or time that its value, a text,
denotes.
-/

namespace NodeFleet.Toml

/-! ## Tables under construction -/

/-- How a table came to be. -/
inductive Origin where
  /-- By its own header, or it is the document itself or an item of a list of tables. -/
  | header
  /-- By the header of a table inside it. -/
  | passage
  /-- By a key of several parts. -/
  | dotted
  deriving DecidableEq

/-- A part of a document under construction. -/
inductive Node where
  /-- A value, closed to additions. -/
  | value (s : Setting)
  /-- A date or a time in its usual form. -/
  | moment (text : String)
  | table (origin : Origin) (entries : List (String × Node))
  /-- Tables that headers `[[item]]` have started, last first. -/
  | series (latest : Node) (earlier : List Node)

namespace Node

/-- A table without entries. -/
def empty (origin : Origin) : Node :=
  .table origin []

/-- The node of a name among entries. -/
def lookup (key : String) (entries : List (String × Node)) : Option Node :=
  (entries.find? fun entry => entry.1 = key).map Prod.snd

/-- Entries with a node under a name. -/
def replaced (key : String) (node : Node) (entries : List (String × Node)) :
    List (String × Node) :=
  if (lookup key entries).isSome then
    entries.map fun entry => if entry.1 = key then (key, node) else entry
  else entries ++ [(key, node)]

/-- Changes the table at the end of a path; the tables on the way are made if need be, with the
given origin.  The path of a header passes through the latest of a series; a key of
several parts may not enter a table that has a header. -/
def update (origin : Origin) (change : Node → Option Node) : List String → Node → Option Node
  | [], node => change node
  | key :: rest, .table own entries => do
      let child := (lookup key entries).getD (empty origin)
      let child ← match child with
        | .value _ => none
        | .moment _ => none
        | .series latest earlier =>
            (update origin change rest latest).map fun latest => .series latest earlier
        | .table other inner =>
            if origin = .dotted ∧ other = .header then none
            else update origin change rest (.table other inner)
      return .table own (replaced key child entries)
  | _ :: _, _ => none

/-- Puts a value under a new name of a table.  A name alone goes into a table with a header, the
last part of a longer key into a table that such keys made. -/
def addValue (isAlone : Bool) (key : String) (value : Node) : Node → Option Node
  | .table origin entries =>
      if isAlone = (origin == .dotted) ∨ (lookup key entries).isSome then none
      else some (.table origin (entries ++ [(key, value)]))
  | _ => none

/-- Puts a value at a key. -/
def addEntry (key : List String) (value node : Node) : Option Node := do
  let last ← key.getLast?
  update .dotted (addValue key.dropLast.isEmpty last value) key.dropLast node

/-- Starts the table of a header. -/
def startTable (key : String) : Node → Option Node
  | .table origin entries =>
      match lookup key entries with
      | none => some (.table origin (replaced key (empty .header) entries))
      | some (.table .passage inner) =>
          some (.table origin (replaced key (.table .header inner) entries))
      | some _ => none
  | _ => none

/-- Starts the next table of a series. -/
def startItem (key : String) : Node → Option Node
  | .table origin entries =>
      match lookup key entries with
      | none => some (.table origin (replaced key (.series (empty .header) []) entries))
      | some (.series latest earlier) =>
          some (.table origin (replaced key (.series (empty .header) (latest :: earlier)) entries))
      | some _ => none
  | _ => none

/-- The key of a table that stands for a date or a time. -/
def momentKey : String := "$__toml_private_datetime"

/-- The date or time that the value under `momentKey` denotes. -/
def toMoment? : Node → Option Setting
  | .value (.text s) => (momentOfText? s).map .text
  | _ => none

mutual

/-- The setting that a finished node is. -/
def toSetting? : Node → Option Setting
  | .value s => some s
  | .moment text => some (.text text)
  | .table _ entries =>
      match entries with
      | (key, first) :: rest =>
          if key = momentKey then first.toMoment?
          else do
            let first ← first.toSetting?
            return .table (Table.ofEntries ((key, first) :: (← toEntries? rest)))
      | [] => some (.table [])
  | .series latest earlier => do
      return .list (((← latest.toSetting?) :: (← toItems? earlier)).reverse)

/-- `toSetting?` on every entry. -/
def toEntries? : List (String × Node) → Option (List (String × Setting))
  | [] => some []
  | (key, node) :: rest => do
      return (key, ← node.toSetting?) :: (← toEntries? rest)

/-- `toSetting?` on every item. -/
def toItems? : List Node → Option (List Setting)
  | [] => some []
  | node :: rest => do
      return (← node.toSetting?) :: (← toItems? rest)

end

end Node

/-! ## Values -/

/-- The number of nested lists and inline tables that no value reaches. -/
def depthLimit : Nat := 80

/-- Reads a key that has fewer parts than the limit. -/
def readPath? (cs : List Char) : Option (List String × List Char) :=
  (readKey? (cs.length + 1) cs).filter fun found => found.1.length < partLimit

/-- Reads a date, a time or a number. -/
def readFigure? (cs : List Char) : Option (Node × List Char) :=
  match readMoment? .strict cs with
  | some (text, rest) => some (.moment text, rest)
  | none => (readNumber? cs).map fun found => (.value found.1, found.2)

/-- The text after the letters of a word. -/
def readWord? (word : String) (value : Setting) (cs : List Char) : Option (Node × List Char) :=
  if word.toList.isPrefixOf cs then some (.value value, cs.drop word.length) else none

/-- Reads a text after its opening mark. -/
def readTextValue? (mark : Char) (cs : List Char) : Option (Node × List Char) :=
  (readText? mark cs).map fun found => (.value (.text found.1), found.2)

mutual

/-- Reads a value without blanks before it. -/
def readValue? : Nat → List Char → Option (Node × List Char)
  | 0, _ => none
  | fuel + 1, cs =>
      match cs with
      | '"' :: rest => readTextValue? '"' rest
      | '\'' :: rest => readTextValue? '\'' rest
      | '[' :: rest =>
          if fuel = 0 then none
          else
            (readItems? fuel (rest.length + 2) rest).map fun found =>
              (.value (.list found.1), found.2)
      | '\x7b' :: rest =>
          if fuel = 0 then none
          else
            match skipBlanks rest with
            | '\x7d' :: rest => some (.value (.table []), rest)
            | _ => do
                let (table, rest) ← readPairs? fuel (rest.length + 2) (.empty .header) rest
                return (.value (← table.toSetting?), rest)
      | 't' :: _ => readWord? "true" (.flag true) cs
      | 'f' :: _ => readWord? "false" (.flag false) cs
      | _ => readFigure? cs
termination_by depth => (depth, 0)

/-- Reads the items of a list up to its closing bracket. -/
def readItems? : Nat → Nat → List Char → Option (List Setting × List Char)
  | _, 0, _ => none
  | depth, fuel + 1, cs =>
      match skipLines (cs.length + 1) cs with
      | ']' :: rest => some ([], rest)
      | cs => do
          let (item, rest) ← readValue? depth cs
          let item ← item.toSetting?
          match skipLines (rest.length + 1) rest with
          | ']' :: rest => return ([item], rest)
          | ',' :: rest =>
              let (items, rest) ← readItems? depth fuel rest
              return (item :: items, rest)
          | _ => none
termination_by depth fuel => (depth, fuel)

/-- Reads the entries of an inline table up to its closing brace. -/
def readPairs? : Nat → Nat → Node → List Char → Option (Node × List Char)
  | _, 0, _, _ => none
  | depth, fuel + 1, node, cs => do
      let (key, rest) ← readPath? cs
      match rest with
      | '=' :: rest =>
          let (value, rest) ← readValue? depth (skipBlanks rest)
          let node ← Node.addEntry key value node
          match skipBlanks rest with
          | '\x7d' :: rest => return (node, rest)
          | ',' :: rest => readPairs? depth fuel node rest
          | _ => none
      | _ => none
termination_by depth fuel => (depth, fuel)

end

/-! ## Documents -/

/-- Reads a header after its opening brackets, up to the end of the line. -/
def readHeader? (closing : List Char) (cs : List Char) : Option (List String × List Char) := do
  let (key, rest) ← readPath? cs
  if closing.isPrefixOf rest then return (key, ← cutLineEnd? (rest.drop closing.length)) else none

/-- Reads an entry up to the end of the line. -/
def readEntry? (cs : List Char) : Option (List String × Node × List Char) := do
  let (key, rest) ← readPath? cs
  match rest with
  | '=' :: rest =>
      let (value, rest) ← readValue? depthLimit (skipBlanks rest)
      return (key, value, ← cutLineEnd? rest)
  | _ => none

/-- Reads the lines of a document; entries go into the table at `place`. -/
def readDocument? : Nat → List String → Node → List Char → Option Node
  | 0, _, _, _ => none
  | fuel + 1, place, node, cs =>
      match skipBlanks cs with
      | [] => some node
      | '[' :: '[' :: rest => do
          let (key, rest) ← readHeader? [']', ']'] rest
          let node ← node.update .passage (Node.startItem (← key.getLast?)) key.dropLast
          readDocument? fuel key node rest
      | '[' :: rest => do
          let (key, rest) ← readHeader? [']'] rest
          let node ← node.update .passage (Node.startTable (← key.getLast?)) key.dropLast
          readDocument? fuel key node rest
      | c :: rest =>
          if c = '#' ∨ c = '\n' ∨ c = '\r' then do
            readDocument? fuel place node (← cutLineEnd? (c :: rest))
          else do
            let (key, value, rest) ← readEntry? (c :: rest)
            let node ← node.update .passage (Node.addEntry key value) place
            readDocument? fuel place node rest

/-- The settings of a whole document. -/
def parse? (text : String) : Option Setting :=
  let cs := text.toList
  (readDocument? (cs.length + 1) [] (.empty .header) cs).bind Node.toSetting?

end NodeFleet.Toml
