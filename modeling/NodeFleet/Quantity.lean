import NodeFleet.Text.Blank
import NodeFleet.Text.Numeral

/-!
# Byte quantities

A byte quantity is a decimal number of bytes, or a number directly followed by
one of the suffixes `Ki Mi Gi Ti Pi` (powers of 1024) and `k M G T P` (powers of
1000), with blanks around it ignored.  Values are 64-bit words.

`Quantity.read` gives the value or the reason for a refusal, and `Quantity.write`
writes a value with the largest binary suffix that divides it.
-/

namespace NodeFleet.Quantity

open NodeFleet.Text

/-- A suffix and the number of bytes it stands for. -/
structure Scale where
  /-- The letters after the number. -/
  suffix : List Char
  bytes : Nat
  deriving DecidableEq

/-- The powers of 1024, smallest first. -/
def binaryScales : List Scale :=
  [⟨['K', 'i'], 2 ^ 10⟩, ⟨['M', 'i'], 2 ^ 20⟩, ⟨['G', 'i'], 2 ^ 30⟩, ⟨['T', 'i'], 2 ^ 40⟩,
    ⟨['P', 'i'], 2 ^ 50⟩]

/-- The powers of 1000, smallest first. -/
def decimalScales : List Scale :=
  [⟨['k'], 10 ^ 3⟩, ⟨['M'], 10 ^ 6⟩, ⟨['G'], 10 ^ 9⟩, ⟨['T'], 10 ^ 12⟩, ⟨['P'], 10 ^ 15⟩]

/-- Every suffix, in the order in which it is looked for. -/
def scales : List Scale := binaryScales ++ decimalScales

/-- Why a text is not a quantity. -/
inductive Fault where
  /-- Nothing is left between the blanks. -/
  | empty
  /-- The part before the suffix is no unsigned 64-bit number. -/
  | malformed
  /-- The number of bytes does not fit into 64 bits. -/
  | tooLarge
  deriving DecidableEq

/-- The wording of a reason. -/
def Fault.reason : Fault → String
  | .empty => "empty"
  | .malformed => "expected an unsigned integer with an optional suffix"
  | .tooLarge => "overflows u64"

/-- A refused quantity: the text as it was given, blanks included, and the reason. -/
structure Refusal where
  value : String
  fault : Fault
  deriving DecidableEq

def Refusal.message (r : Refusal) : String :=
  "invalid quantity '" ++ r.value ++ "': " ++ r.fault.reason

/-- The characters before `suffix`, if `cs` ends in it. -/
def dropSuffix? (suffix cs : List Char) : Option (List Char) :=
  if suffix.isSuffixOf cs then some (cs.take (cs.length - suffix.length)) else none

/-- The number part of a quantity and the bytes in its unit: the first suffix that matches,
and single bytes if none does. -/
def split (cs : List Char) : List Char × Nat :=
  (scales.findSome? fun scale => (dropSuffix? scale.suffix cs).map fun digits =>
    (digits, scale.bytes)).getD (cs, 1)

def readChars (cs : List Char) : Except Fault Nat :=
  let body := trim cs
  if body = [] then .error .empty
  else
    let (digits, unit) := split body
    match Numeral.word? digits with
    | none => .error .malformed
    | some n => if n * unit < 2 ^ 64 then .ok (n * unit) else .error .tooLarge

def read (text : String) : Except Refusal Nat :=
  match readChars text.toList with
  | .ok n => .ok n
  | .error fault => .error { value := text, fault }

/-- Writes a number of bytes with the largest of the given scales that divides it. -/
def writeScaled (bytes : Nat) : List Scale → List Char
  | [] => Numeral.write bytes
  | scale :: smaller =>
      if bytes % scale.bytes = 0 then Numeral.write (bytes / scale.bytes) ++ scale.suffix
      else writeScaled bytes smaller

/-- The characters of a number of bytes; zero takes no suffix. -/
def writeChars (bytes : Nat) : List Char :=
  if bytes = 0 then ['0'] else writeScaled bytes binaryScales.reverse

/-- Writes a number of bytes. -/
def write (bytes : Nat) : String :=
  String.ofList (writeChars bytes)

end NodeFleet.Quantity
