import NodeFleet.Text.Base64
import NodeFleet.Text.Split

/-!
# Certificates and keys as text

Certificates and keys are bytes in base 64 between a line that opens a block and one that closes
it; both name what the block holds, its label.  Lines outside blocks do not count.

A text is read from the front and as far as it is wanted.  `Pem.read` therefore gives the blocks
before the first fault and says whether there is one.
-/

namespace NodeFleet.Pem

open NodeFleet.Text

/-- A block: its label and its bytes. -/
structure Block where
  label : String
  bytes : List Nat

/-- What is read of a text. -/
structure Reading where
  /-- The blocks before the first fault. -/
  blocks : List Block
  /-- Whether the text has no fault. -/
  isSound : Bool

/-- A reading with a block in front. -/
def Reading.cons (block : Block) (r : Reading) : Reading :=
  { r with blocks := block :: r.blocks }

/-- The reading that ends at a fault. -/
def Reading.fault : Reading :=
  { blocks := [], isSound := false }

/-- A text without the blanks at its end. -/
def trimEnd (cs : List Char) : List Char :=
  (cs.reverse.dropWhile (· = ' ')).reverse

/-- What opens a block, up to the label. -/
def openingMark : List Char := "-----BEGIN ".toList

/-- The label in an opening line, what opens it cut off.  Five hyphens follow the label, with blanks
between and after them if wanted. -/
def label? (cs : List Char) : Option (List Char) :=
  let trail := (cs.reverse.takeWhile fun c => c = '-' || c = ' ').reverse.dropWhile (· = ' ')
  if trail.count '-' = 5 then some (cs.take (cs.length - trail.length)) else none

/-- What closes a block. -/
def closingMark (label : List Char) : List Char :=
  "-----END ".toList ++ label ++ "-----".toList

/-- Reads lines.  `label` is the label of the block that was opened last and `found` are the
characters in it.  An opening line within a block changes the label only. -/
def readLines (label : Option (List Char)) (found : List Char) : List (List Char) → Reading
  | [] => { blocks := [], isSound := label.isNone }
  | line :: rest =>
      match after? openingMark line with
      | some opened =>
          match label? opened with
          | some label => readLines (some label) found rest
          | none => .fault
      | none =>
          match label with
          | none => readLines none [] rest
          | some name =>
              if (closingMark name).isPrefixOf line then
                match Base64.decode? found with
                | some bytes => (readLines none [] rest).cons { label := String.ofList name, bytes }
                | none => .fault
              else readLines label (found ++ trimEnd line) rest

/-- Reads a text.  A carriage return ends a line as well. -/
def read (text : String) : Reading :=
  readLines none [] (splitOn '\n' (text.toList.map fun c => if c = '\r' then '\n' else c))

def certificateLabel : String := "CERTIFICATE"

def keyLabels : List String := ["PRIVATE KEY", "RSA PRIVATE KEY", "EC PRIVATE KEY"]

/-- The certificates of a text without a fault. -/
def certificates? (text : String) : Option (List (List Nat)) :=
  let found := read text
  if found.isSound then
    some ((found.blocks.filter fun block => block.label = certificateLabel).map Block.bytes)
  else none

/-- The first key of a text.  A fault behind it does not count. -/
def key? (text : String) : Option (List Nat) :=
  ((read text).blocks.find? fun block => keyLabels.contains block.label).map Block.bytes

end NodeFleet.Pem
