import NodeFleet.Text.Utf8
import NodeFleet.Text.Split

/-!
# Targets

The target of a request names what it is for: an absolute URI with an authority, an authority
alone, a path alone, or `*`.  `Target.isWellFormed` says which texts are targets, and
`Target.path` gives the path of one.  The check is one of characters and separators; what the
parts mean is decided where they are used.
-/

namespace NodeFleet.Target

open NodeFleet.Text

/-! ## Characters -/

def isSchemeChar (c : Char) : Bool :=
  c.isAlphanum || c = '+' || c = '-' || c = '.' || c = '~'

def isAuthorityChar (c : Char) : Bool :=
  c.isAlphanum || "!$&'()*+,-.:;=@[]_~".toList.contains c

def isAuthorityEnd (c : Char) : Bool :=
  c = '/' || c = '?' || c = '#'

/-- Whether a character is printable ASCII and no blank. -/
def isVisible (c : Char) : Bool :=
  0x20 < c.toNat && c.toNat < 0x7F

def isPathChar (c : Char) : Bool :=
  isVisible c && !"#<>?`".toList.contains c

def isQueryChar (c : Char) : Bool :=
  isVisible c && !"\"#<>".toList.contains c

/-! ## Authorities -/

/-- What has been seen of an authority. -/
structure AuthorityScan where
  /-- Colons that may start a port. -/
  colons : Nat := 0
  /-- Whether a bracket was opened. -/
  isOpened : Bool := false
  /-- Whether it was closed. -/
  isClosed : Bool := false
  /-- Whether a percent sign stands outside the credentials and brackets. -/
  hasPercent : Bool := false
  /-- Whether the last character was the end of the credentials. -/
  endsInAt : Bool := false

/-- The most colons before the end of an authority's brackets. -/
def maxColons : Nat := 8

/-- The scan after one more character, unless it may not stand there.  Credentials and an address in
brackets take the colons and percent signs before their end with them. -/
def AuthorityScan.next? (s : AuthorityScan) (c : Char) : Option AuthorityScan :=
  let s := { s with endsInAt := c = '@' }
  if c = ':' then if s.colons < maxColons then some { s with colons := s.colons + 1 } else none
  else if c = '[' then
    if s.hasPercent ∨ s.isOpened then none else some { s with isOpened := true }
  else if c = ']' then
    if s.isOpened ∧ ¬ s.isClosed then
      some { s with isClosed := true, colons := 0, hasPercent := false }
    else none
  else if c = '@' then some { s with colons := 0, hasPercent := false }
  else if c = '%' then some { s with hasPercent := true }
  else if isAuthorityChar c then some s
  else none

/-- Whether a whole authority has been seen. -/
def AuthorityScan.isComplete (s : AuthorityScan) : Bool :=
  s.isOpened = s.isClosed && s.colons ≤ 1 && !s.endsInAt && !s.hasPercent

/-- Whether a text is an authority or empty. -/
def isAuthority (cs : List Char) : Bool :=
  match cs.foldlM AuthorityScan.next? {} with
  | some s => s.isComplete
  | none => false

/-! ## Paths -/

/-- The path of a text without scheme and authority. -/
def pathPart (cs : List Char) : List Char :=
  cs.takeWhile fun c => c ≠ '?' && c ≠ '#'

/-- Whether a text is a path with a query and a fragment if wanted. -/
def isPathAndQuery (cs : List Char) : Bool :=
  let path := pathPart cs
  let query := ((cs.drop path.length).takeWhile (· ≠ '#')).drop 1
  path.all isPathChar && query.all isQueryChar

/-! ## Targets -/

/-- The longest scheme. -/
def maxScheme : Nat := 64

/-- The longest target in bytes. -/
def maxLength : Nat := 2 ^ 16 - 2

/-- A target with a scheme: the scheme, the authority, and the path with all that follows it. -/
structure Absolute where
  scheme : List Char
  authority : List Char
  /-- The path and what follows it. -/
  rest : List Char

/-- The parts of a text that starts with a scheme: a name and `://`. -/
def absolute? (cs : List Char) : Option Absolute :=
  let scheme := cs.takeWhile isSchemeChar
  (after? "://".toList (cs.drop scheme.length)).map fun cs =>
    let authority := cs.takeWhile fun c => !isAuthorityEnd c
    { scheme, authority, rest := cs.drop authority.length }

/-- Whether a text is a target. -/
def isWellFormed (text : String) : Bool :=
  let cs := text.toList
  if cs = [] ∨ maxLength < (Utf8.encode cs).length then false
  else if cs = ['*'] then true
  else if cs.head? = some '/' then isPathAndQuery cs
  else
    match absolute? cs with
    | none => isAuthority cs
    | some parts =>
        parts.scheme.length ≤ maxScheme && parts.authority ≠ [] && isAuthority parts.authority &&
          isPathAndQuery parts.rest

def path (text : String) : List Char :=
  let cs := text.toList
  match absolute? cs with
  | some parts => pathPart parts.rest
  | none => pathPart cs

end NodeFleet.Target
