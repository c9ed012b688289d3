import NodeFleet.Url.Host

/-!
# URLs

A URL has a scheme, for some schemes a host and a port, a path, and a query and a fragment
if wanted.  The schemes of the web are special: they always have a host, they have ports of
their own, and a backslash counts as a slash.

`Url.read?` reads a URL and `Url.join?` reads a reference as seen from one.  The segments
`.` and `..` of a path are resolved while it is read, also where the points are
percent-encoded; characters that may not stand in a path or query are percent-encoded.
Blanks around a text and line breaks in it do not count.
-/

namespace NodeFleet

open NodeFleet.Text

inductive Url.Path where
  /-- A text without structure, which no reference can be seen from. -/
  | plain (s : String)
  /-- Segments, each after a slash. -/
  | segments (parts : List String)
  deriving DecidableEq

structure Url where
  /-- The scheme in lower case. -/
  scheme : String
  /-- The host, if there is one. -/
  host : Option Url.Host
  /-- The port, unless it is the one of the scheme. -/
  port : Option Nat
  path : Url.Path
  query : Option String
  fragment : Option String
  deriving DecidableEq

namespace Url

/-! ## Schemes -/

/-- The special schemes that have a port, and their ports. -/
def specialPorts : List (String × Nat) :=
  [("http", 80), ("https", 443), ("ws", 80), ("wss", 443), ("ftp", 21)]

def defaultPort? (scheme : String) : Option Nat :=
  (specialPorts.find? fun entry => entry.1 = scheme).map Prod.snd

/-- Whether a scheme is special. -/
def isSpecial (scheme : String) : Bool :=
  scheme = "file" || (defaultPort? scheme).isSome

/-- The characters of a scheme after the first letter. -/
def isSchemeChar (c : Char) : Bool :=
  c.isAlphanum || c = '+' || c = '-' || c = '.'

/-- The scheme at the start of a text, in lower case, and the text after the colon. -/
def cutScheme? (cs : List Char) : Option (String × List Char) :=
  match cs.takeWhile isSchemeChar, cs.dropWhile isSchemeChar with
  | c :: name, ':' :: rest =>
      if c.isAlpha then some (String.ofList ((c :: name).map Char.toLower), rest) else none
  | _, _ => none

/-! ## Characters -/

/-- The text that counts: no blanks or control characters around it, no tabulators and line breaks
in it. -/
def clean (s : String) : List Char :=
  let isOuter (c : Char) : Bool := c.toNat ≤ 0x20
  let inner := ((s.toList.dropWhile isOuter).reverse.dropWhile isOuter).reverse
  inner.filter fun c => c ≠ '\t' && c ≠ '\n' && c ≠ '\r'

/-- Whether a character stands as itself between the given exceptions. -/
def isKept (exceptions : List Char) (c : Char) : Bool :=
  0x20 < c.toNat && c.toNat < 0x7F && !exceptions.contains c

/-- The characters that stand as themselves in a path. -/
def isPathChar : Char → Bool :=
  isKept "\"#<>?`\x7b\x7d".toList

/-- The characters that stand as themselves in a query. -/
def isQueryChar (special : Bool) : Char → Bool :=
  isKept (if special then "\"#<>'".toList else "\"#<>".toList)

/-- The characters that stand as themselves in a fragment. -/
def isFragmentChar : Char → Bool :=
  isKept "\"<>`".toList

/-- A text with the characters percent-encoded that may not stand as themselves. -/
def encoded (keep : Char → Bool) (cs : List Char) : String :=
  String.ofList (Percent.encode keep cs)

/-- Whether a character is a slash for the scheme. -/
def isSlash (special : Bool) (c : Char) : Bool :=
  c = '/' || (special && c = '\\')

/-- Whether a character ends a path. -/
def endsPath (c : Char) : Bool :=
  c = '?' || c = '#'

/-! ## Paths -/

/-- A segment with its percent-encoded points as points. -/
def withPoints : List Char → List Char
  | '%' :: '2' :: 'e' :: rest => '.' :: withPoints rest
  | '%' :: '2' :: 'E' :: rest => '.' :: withPoints rest
  | c :: rest => c :: withPoints rest
  | [] => []

/-- Goes from a folder, its innermost name first, through the segments of a path. -/
def walk (folder : List String) : List (List Char) → List String
  | [] => folder.reverse
  | [last] =>
      let points := withPoints last
      if points = ['.', '.'] then ("" :: folder.drop 1).reverse
      else if points = ['.'] then ("" :: folder).reverse
      else (encoded isPathChar last :: folder).reverse
  | segment :: rest =>
      let points := withPoints segment
      if points = ['.', '.'] then walk (folder.drop 1) rest
      else if points = ['.'] then walk folder rest
      else walk (encoded isPathChar segment :: folder) rest

/-- The segments of a path text seen from a folder. -/
def resolve (special : Bool) (folder : List String) (cs : List Char) : List String :=
  walk folder.reverse (splitOn '/' (cs.map fun c => if isSlash special c then '/' else c))

/-! ## The parts after the authority -/

/-- A fragment after its mark. -/
def readFragment : List Char → Option String
  | '#' :: rest => some (encoded isFragmentChar rest)
  | _ => none

/-- A query after its mark. -/
def readQuery (special : Bool) : List Char → Option String
  | '?' :: rest => some (encoded (isQueryChar special) (rest.takeWhile (· ≠ '#')))
  | _ => none

/-- A URL with the query and the fragment that follow its path. -/
def withTail (u : Url) (cs : List Char) : Url :=
  { u with
    query := readQuery (isSpecial u.scheme) cs
    fragment := readFragment (cs.dropWhile (· ≠ '#')) }

/-- A URL with the path, the query and the fragment of a text, seen from a folder. -/
def withPath (u : Url) (folder : List String) (cs : List Char) : Url :=
  let path := cs.takeWhile fun c => !endsPath c
  let tail := cs.dropWhile fun c => !endsPath c
  withTail { u with path := .segments (resolve (isSpecial u.scheme) folder path) } tail

/-- A URL with the path, the query and the fragment that follow its authority: nothing, or a text
that starts with a slash. -/
def withRoot (u : Url) (cs : List Char) : Url :=
  match cs with
  | c :: rest =>
      if isSlash (isSpecial u.scheme) c then withPath u [] rest
      else withTail { u with path := .segments (if isSpecial u.scheme then [""] else []) } cs
  | [] => { u with path := .segments (if isSpecial u.scheme then [""] else []) }

/-! ## Authorities -/

/-- What follows the last `@` of an authority. -/
def withoutCredentials (cs : List Char) : List Char :=
  (cs.reverse.takeWhile (· ≠ '@')).reverse

/-- The host and the port of an authority; a colon between brackets is part of the host. -/
def cutPort (cs : List Char) : List Char × Option (List Char) :=
  match cs.reverse.takeWhile (· ≠ ']'), cs.reverse.dropWhile (· ≠ ']') with
  | back, front =>
      match cut? ':' back.reverse with
      | some (name, port) => (front.reverse ++ name, some port)
      | none => (cs, none)

/-- Reads a port: nothing, or a number of 16 bits. -/
def readPort? (scheme : String) : Option (List Char) → Option (Option Nat)
  | none => some none
  | some [] => some none
  | some digits =>
      if digits.all Char.isDigit then
        ((Numeral.digits? digits).filter (· < 2 ^ 16)).map fun port =>
          if defaultPort? scheme = some port then none else some port
      else none

/-- Whether a character ends an authority. -/
def endsAuthority (special : Bool) (c : Char) : Bool :=
  isSlash special c || endsPath c

/-- Whether a name is that of a drive, which is part of a path. -/
def isDrive : List Char → Bool
  | [letter, mark] => letter.isAlpha && (mark = ':' || mark = '|')
  | _ => false

/-- The host that holds a file; the own one is no host. -/
def readFileHost? (name : List Char) : Option (Option Host) :=
  if name = [] then some none
  else
    (Host.read? true name).map fun host => if host = .name "localhost" then none else some host

/-- Reads what follows the slashes in front of the host of a file. -/
def readFile? (cs : List Char) : Option Url := do
  let name := cs.takeWhile fun c => !endsAuthority true c
  let u : Url :=
    { scheme := "file", host := none, port := none, path := .segments [], query := none
      fragment := none }
  if isDrive name then return withPath u [] cs
  else return withRoot { u with host := ← readFileHost? name } (cs.drop name.length)

/-- Reads what follows the slashes in front of an authority. -/
def readAuthority? (scheme : String) (cs : List Char) : Option Url :=
  if scheme = "file" then readFile? cs
  else do
    let special := isSpecial scheme
    let authority := cs.takeWhile fun c => !endsAuthority special c
    let rest := cs.drop authority.length
    let (name, port) := cutPort (withoutCredentials authority)
    let port ← readPort? scheme port
    let host ←
      if name = [] ∧ ¬ special then
        if port.isNone ∧ ¬ authority.contains '@' then some none else none
      else (Host.read? special name).map some
    let u : Url :=
      { scheme, host, port, path := .segments [], query := none, fragment := none }
    return withRoot u rest

/-! ## Reading -/

/-- Reads what follows a scheme. -/
def readRest? (scheme : String) (cs : List Char) : Option Url :=
  let bare (path : Path) : Url :=
    { scheme, host := none, port := none, path, query := none, fragment := none }
  if scheme = "file" then
    match cs with
    | a :: b :: rest =>
        if isSlash true a ∧ isSlash true b then readAuthority? scheme rest
        else some (withPath (bare (.segments [])) [] (cs.dropWhile (isSlash true)))
    | cs => some (withPath (bare (.segments [])) [] (cs.dropWhile (isSlash true)))
  else if isSpecial scheme then readAuthority? scheme (cs.dropWhile (isSlash true))
  else
    match cs with
    | '/' :: '/' :: rest => readAuthority? scheme rest
    | '/' :: rest => some (withPath (bare (.segments [])) [] rest)
    | cs =>
        let path := cs.takeWhile fun c => !endsPath c
        let text := encoded (fun c => 0x20 ≤ c.toNat ∧ c.toNat < 0x7F) path
        some (withTail (bare (.plain text)) (cs.dropWhile fun c => !endsPath c))

def read? (s : String) : Option Url := do
  let (scheme, rest) ← cutScheme? (clean s)
  readRest? scheme rest

/-- The folder that a URL is in: its path without the last segment. -/
def folder (u : Url) : List String :=
  match u.path with
  | .plain _ => []
  | .segments parts => parts.dropLast

/-- Reads a reference without a scheme as seen from a URL with segments. -/
def joinRelative? (base : Url) (cs : List Char) : Option Url :=
  let special := isSpecial base.scheme
  match cs with
  | [] => some { base with fragment := none }
  | c :: rest =>
      if isSlash special c then
        match rest with
        | d :: tail =>
            if isSlash special d then
              readAuthority? base.scheme (if special then tail.dropWhile (isSlash true) else tail)
            else some (withPath base [] rest)
        | [] => some (withPath base [] rest)
      else if c = '?' then some (withTail base cs)
      else if c = '#' then some { base with fragment := readFragment cs }
      else some (withPath base base.folder cs)

/-- Whether a URL has a path that references can be seen from. -/
def isHierarchical (u : Url) : Bool :=
  match u.path with
  | .plain _ => false
  | .segments _ => true

/-- Reads a reference as seen from a URL. -/
def join? (base : Url) (reference : String) : Option Url :=
  let cs := clean reference
  match cutScheme? cs with
  | some (scheme, rest) =>
      if isSpecial scheme ∧ scheme = base.scheme ∧ ¬ "//".toList.isPrefixOf rest then
        joinRelative? base rest
      else readRest? scheme rest
  | none =>
      if base.isHierarchical then joinRelative? base cs
      else if cs.head? = some '#' then some { base with fragment := readFragment cs }
      else none

/-! ## Writing -/

def Path.text : Path → String
  | .plain s => s
  | .segments parts => String.join (parts.map fun part => "/" ++ part)

/-- What a server is asked for: the path and the query. -/
def target (u : Url) : String :=
  u.path.text ++ (u.query.map fun query => "?" ++ query).getD ""

/-- The port that a URL leads to. -/
def effectivePort? (u : Url) : Option Nat :=
  u.port.or (defaultPort? u.scheme)

end Url

end NodeFleet
