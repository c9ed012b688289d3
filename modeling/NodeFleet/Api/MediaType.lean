import NodeFleet.Text.Split

/-!
# Media types

A media type is a type, a slash and a subtype, followed by parameters.  A subtype may have a
suffix, which follows its last `+`.  The API takes bodies that are declared as JSON: of the type
`application` with the subtype or the suffix `json`.
-/

namespace NodeFleet.MediaType

def isTokenChar (c : Char) : Bool :=
  c.isAlphanum || "!#$%&'*+-.^_`|~".toList.contains c

/-- Whether the characters are a token of at least one character. -/
def isToken (cs : List Char) : Bool :=
  cs ≠ [] && cs.all isTokenChar

/-- What follows a quoted value, its opening mark read: blanks and a semicolon, or the end. -/
def afterQuoted : List Char → Option (List Char)
  | [] => some []
  | ' ' :: rest => afterQuoted rest
  | ';' :: rest => some rest
  | _ => none

/-- The characters of a quoted value. -/
def isQuotedChar (c : Char) : Bool :=
  31 < c.toNat && c.toNat < 127

/-- The characters after the closing mark of a quoted value, its opening mark read.  Its first
character does not close it. -/
def dropQuoted : List Char → Option (List Char)
  | [] => none
  | first :: rest =>
      if isQuotedChar first then do
        let (inner, rest) ← Text.cut? '"' rest
        if inner.all isQuotedChar then some rest else none
      else none

/-- Whether the characters after a semicolon are parameters, for at most `fuel` of them. -/
def areParameters : Nat → List Char → Bool
  | 0, cs => cs = []
  | fuel + 1, cs =>
      let cs := cs.dropWhile (· = ' ')
      if cs = [] then true
      else
        match Text.cut? '=' cs with
        | none => false
        | some (name, value) =>
            isToken name &&
              match value with
              | '"' :: quoted =>
                  match (dropQuoted quoted).bind afterQuoted with
                  | some rest => areParameters fuel rest
                  | none => false
              | _ =>
                  match Text.cut? ';' value with
                  | some (value, rest) => isToken value && areParameters fuel rest
                  | none => value.all isTokenChar

/-- The part before the parameters, if the parameters are well formed. -/
def essence? (cs : List Char) : Option (List Char) :=
  match Text.cut? ';' cs with
  | none => some cs
  | some (front, parameters) =>
      if areParameters (parameters.length + 1) parameters then some front else none

/-- A subtype without its suffix, and the suffix.  A `+` that the subtype starts with opens none. -/
def splitSuffix (subtype : List Char) : List Char × Option (List Char) :=
  match subtype with
  | first :: rest =>
      match Text.cut? '+' rest.reverse with
      | some (suffix, front) => (first :: front.reverse, some suffix.reverse)
      | none => (subtype, none)
  | [] => ([], none)

/-- Whether a media type declares JSON. -/
def declaresJson (text : String) : Bool :=
  match (essence? text.toList).bind (Text.cut? '/') with
  | none => false
  | some (type, subtype) =>
      let json := "json".toList
      let (front, suffix) := splitSuffix (subtype.map Char.toLower)
      isToken type && isToken subtype && type.map Char.toLower = "application".toList &&
        (front = json || suffix = some json)

end NodeFleet.MediaType
