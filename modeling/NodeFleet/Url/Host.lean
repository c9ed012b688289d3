import NodeFleet.Text.Attached
import NodeFleet.Text.DomainChar
import NodeFleet.Text.Numeral
import NodeFleet.Text.Percent
import NodeFleet.Text.Punycode
import NodeFleet.Text.Split

/-!
# Hosts of URLs

A host is a name, an address of four bytes or an address of eight 16-bit pieces.  A name
whose last label is a number has to be an address of four bytes, which may be written with
fewer parts and in other bases.  Letters outside ASCII stay as they are; a label that encodes such
letters has to be in order.
-/

namespace NodeFleet.Url

open NodeFleet.Text

inductive Host where
  | name (s : String)
  /-- An address of four bytes, as one number. -/
  | four (n : Nat)
  /-- An address of eight 16-bit pieces. -/
  | eight (pieces : List Nat)
  deriving DecidableEq

/-! ## Addresses of four bytes -/

/-- The base that a part of an address is written in, and its digits. -/
def partBase (cs : List Char) : Nat × List Char :=
  match cs with
  | '0' :: 'x' :: rest => (16, rest)
  | '0' :: 'X' :: rest => (16, rest)
  | '0' :: d :: rest => (8, d :: rest)
  | cs => (10, cs)

/-- The value of a part of an address; a base mark without digits is zero. -/
def partValue? (cs : List Char) : Option Nat :=
  if cs = [] then none
  else
    let (base, digits) := partBase cs
    digits.foldlM (fun n c => do
      let d ← Percent.hexDigit? c
      if d < base then some (base * n + d) else none) 0

/-- The parts of a host name between points; a point at the end does not count. -/
def labels (cs : List Char) : List (List Char) :=
  let parts := splitOn '.' cs
  if parts.getLast? = some [] ∧ 1 < parts.length then parts.dropLast else parts

/-- Whether the last label of a host name is a number. -/
def endsInNumber (cs : List Char) : Bool :=
  match (labels cs).getLast? with
  | some last => (last ≠ [] && last.all Char.isDigit) || (partValue? last).isSome
  | none => false

/-- The address of numbers: every one but the last is a byte, the last fills what is left. -/
def ofParts? : Nat → List Nat → Option Nat
  | _, [] => none
  | room, [last] => if last < 256 ^ room then some last else none
  | room + 1, part :: rest =>
      if part < 256 then (ofParts? room rest).map fun n => part * 256 ^ room + n else none
  | 0, _ => none

/-- Reads an address of four bytes. -/
def readFour? (cs : List Char) : Option Nat := do
  let values ← (labels cs).mapM partValue?
  if values.length ≤ 4 then ofParts? 4 values else none

/-! ## Addresses of eight pieces -/

/-- Reads a byte in decimal without zeros in front. -/
def readByte? (cs : List Char) : Option Nat :=
  if cs.head? = some '0' ∧ 1 < cs.length then none
  else if cs.all Char.isDigit then (Numeral.digits? cs).filter (· < 256)
  else none

/-- Reads four bytes with points between them as two pieces. -/
def readBytes? (cs : List Char) : Option (List Nat) :=
  match (splitOn '.' cs).mapM readByte? with
  | some [a, b, c, d] => some [256 * a + b, 256 * c + d]
  | _ => none

/-- Reads a piece: one to four hexadecimal digits. -/
def readPiece? (cs : List Char) : Option Nat :=
  if cs = [] ∨ 4 < cs.length then none
  else (cs.mapM Percent.hexDigit?).map fun digits => digits.foldl (fun n d => 16 * n + d) 0

/-- Reads pieces with colons between them; the last may be four bytes. -/
def readPieces? : List (List Char) → Option (List Nat)
  | [] => some []
  | [last] => if last.contains '.' then readBytes? last else (readPiece? last).map fun n => [n]
  | part :: rest => do return (← readPiece? part) :: (← readPieces? rest)

/-- Reads a run of pieces that may be empty. -/
def readRun? (cs : List Char) : Option (List Nat) :=
  if cs = [] then some [] else readPieces? (splitOn ':' cs)

/-- The texts before and after the first two colons in a row. -/
def cutDouble? : List Char → Option (List Char × List Char)
  | ':' :: ':' :: rest => some ([], rest)
  | c :: rest => (cutDouble? rest).map fun parts => (c :: parts.1, parts.2)
  | [] => none

/-- Reads an address of eight pieces; two colons in a row stand for as many zeros as are missing. -/
def readEight? (cs : List Char) : Option (List Nat) :=
  match cutDouble? cs with
  | none => (readRun? cs).filter fun pieces => pieces.length = 8
  | some (front, back) => do
      let front ← readRun? front
      let back ← readRun? back
      if front.length + back.length < 8 then
        some (front ++ List.replicate (8 - front.length - back.length) 0 ++ back)
      else none

/-! ## Reading and writing hosts -/

/-- The characters that no host name contains. -/
def isForbidden (c : Char) : Bool :=
  c.toNat = 0 || "\t\n\r #/:<>?@[\\]^|".toList.contains c

/-- The characters that no host name of a special scheme contains. -/
def isForbiddenName (c : Char) : Bool :=
  isForbidden c || c.toNat < 0x20 || c = '%' || c.toNat = 0x7F

/-- What starts a label that encodes characters outside ASCII. -/
def encodedMark : List Char := "xn--".toList

/-- Whether the characters that a label encodes are in order: not all are ASCII, each may stand in a
label, and the first does not attach to what is before it. -/
def areLabelChars (cs : List Char) : Bool :=
  let isAscii (c : Char) : Bool := c.toNat < 0x80
  !cs.all isAscii && cs.all (fun c => isAscii c || isDomainChar c) && !(cs.head?.any isAttached)

/-- Whether a label in lower case is in order. -/
def isSoundLabel (label : List Char) : Bool :=
  match after? encodedMark label with
  | some encoded => (Punycode.decode? encoded).any areLabelChars
  | none => true

/-- Reads a host of a special scheme. -/
def Host.readSpecial? (cs : List Char) : Option Host := do
  let name := (← Percent.decode? cs).map Char.toLower
  if name = [] ∨ name.any isForbiddenName ∨ ¬ (splitOn '.' name).all isSoundLabel then none
  else if endsInNumber name then (readFour? name).map Host.four
  else some (.name (String.ofList name))

def Host.read? (isSpecial : Bool) (cs : List Char) : Option Host :=
  match cs with
  | '[' :: rest =>
      if rest.getLast? = some ']' then (readEight? rest.dropLast).map Host.eight else none
  | cs =>
      if isSpecial then Host.readSpecial? cs
      else if cs.any isForbidden then none
      else
        let isKept (c : Char) : Bool := 0x20 ≤ c.toNat ∧ c.toNat < 0x7F
        some (.name (String.ofList (Percent.encode isKept cs)))

/-- The length of the run of zeros at the start. -/
def zeros (pieces : List Nat) : Nat :=
  (pieces.takeWhile (· = 0)).length

/-- Where the longest run of zeros starts, if it has two or more, and its length. -/
def longestZeros? (pieces : List Nat) : Option (Nat × Nat) :=
  let runs := (List.range pieces.length).map fun i => (i, zeros (pieces.drop i))
  (runs.foldl (fun best run =>
    match best with
    | some found => if found.2 < run.2 then some run else best
    | none => some run) none).filter fun run => 2 ≤ run.2

/-- Pieces with colons between them. -/
def piecesText (pieces : List Nat) : String :=
  ":".intercalate (pieces.map fun n => String.ofList (Nat.toDigits 16 n))

def Host.text : Host → String
  | .name s => s
  | .four n =>
      ".".intercalate ([n / 256 ^ 3, n / 256 ^ 2 % 256, n / 256 % 256, n % 256].map Numeral.text)
  | .eight pieces =>
      match longestZeros? pieces with
      | none => "[" ++ piecesText pieces ++ "]"
      | some (start, length) =>
          "[" ++ piecesText (pieces.take start) ++ "::" ++
            piecesText (pieces.drop (start + length)) ++ "]"

end NodeFleet.Url
