import NodeFleet.Credential.Octets

/-!
# Nested values in bytes

Certificates and keys are built from elements: a byte that is the tag of an element, the length of
its contents, and the contents, which for most tags are elements again.  A length is written in
the fewest bytes, and natural numbers as well.

A `Der.Reader` takes elements from the front of bytes.  `Der.all?` runs it on bytes that it has to
use up.
-/

namespace NodeFleet.Der

/-- A way to read a value from the front of bytes. -/
abbrev Reader (α : Type) := StateT (List Nat) Option α

/-! ## Tags -/

/-- The tag of a truth value. -/
def boolTag : Nat := 0x01

def integerTag : Nat := 0x02

/-- The tag of a string of bits. -/
def bitsTag : Nat := 0x03

/-- The tag of a string of bytes. -/
def bytesTag : Nat := 0x04

/-- The tag of an identifier of a kind of things. -/
def identifierTag : Nat := 0x06

def sequenceTag : Nat := 0x30

/-- The tag of the part with a number, if it is built from elements. -/
def partTag (number : Nat) : Nat := 0xA0 + number

/-- The tag of the part with a number, if it is bytes. -/
def plainPartTag (number : Nat) : Nat := 0x80 + number

/-! ## Elements -/

structure Element where
  tag : Nat
  contents : List Nat

/-- The bound that lengths stay below. -/
def lengthBound : Nat := 2 ^ 16 - 1

def byte : Reader Nat
  | [] => none
  | first :: rest => some (first, rest)

/-- Reads a length: one byte below 128, or a byte that tells how many follow. -/
def length : Reader Nat := do
  let first ← byte
  if first < 0x80 then return first
  else if first = 0x81 then do
    let n ← byte
    if 0x80 ≤ n then return n else failure
  else if first = 0x82 then do
    let high ← byte
    let low ← byte
    let n := 256 * high + low
    if 0x100 ≤ n ∧ n < lengthBound then return n else failure
  else failure

/-- Reads so many bytes. -/
def take (count : Nat) : Reader (List Nat) := fun bytes =>
  if bytes.length < count then none else some (bytes.take count, bytes.drop count)

/-- Whether a byte is a tag: its last five bits are not all set. -/
def isTag (n : Nat) : Bool :=
  n % 32 ≠ 31

def element : Reader Element := do
  let tag ← byte
  if isTag tag then return { tag, contents := ← take (← length) } else failure

/-- Reads the contents of an element that has to have a tag. -/
def contents (tag : Nat) : Reader (List Nat) := do
  let e ← element
  if e.tag = tag then return e.contents else failure

/-- The value of bytes that a reader uses up. -/
def all? {α : Type} (reader : Reader α) (bytes : List Nat) : Option α :=
  match reader bytes with
  | some (a, []) => some a
  | _ => none

/-- Reads an element that has to have a tag and whose contents the reader has to use up. -/
def inside {α : Type} (tag : Nat) (reader : Reader α) : Reader α := do
  let found ← contents tag
  StateT.lift (all? reader found)

/-- Whether the next byte is a tag. -/
def isNext (tag : Nat) : Reader Bool := fun bytes =>
  some (bytes.head? = some tag, bytes)

/-- Reads something if the next byte is a tag. -/
def optional {α : Type} (tag : Nat) (reader : Reader α) : Reader (Option α) := do
  if ← isNext tag then return some (← reader) else return none

/-- Reads all elements, of at most so many bytes. -/
def elements : Nat → Reader (List Element)
  | _, [] => some ([], [])
  | 0, _ => none
  | fuel + 1, bytes => do
      let (first, rest) ← element bytes
      let (others, rest) ← elements fuel rest
      return (first :: others, rest)

/-- The elements that bytes consist of. -/
def elements? (bytes : List Nat) : Option (List Element) :=
  all? (elements bytes.length) bytes

/-! ## Numbers and strings -/

/-- Reads a natural number: its first bit is zero, and the byte with that bit is needed. -/
def natural : Reader Nat := do
  match ← contents integerTag with
  | [] => failure
  | [first] => if first < 0x80 then return first else failure
  | first :: second :: rest =>
      if first < 0x80 ∧ (first ≠ 0 ∨ 0x80 ≤ second) then
        return Octets.number (first :: second :: rest)
      else failure

/-- Reads a natural number that has to be a given one. -/
def exactly (n : Nat) : Reader Unit := do
  if (← natural) = n then return () else failure

/-- The bytes of a string of bits that fills them. -/
def wholeBytes? : List Nat → Option (List Nat)
  | 0 :: bytes => some bytes
  | _ => none

/-- Reads a string of bits that fills its bytes. -/
def wholeBits (tag : Nat) : Reader (List Nat) := do
  let found ← contents tag
  StateT.lift (wholeBytes? found)

end NodeFleet.Der
