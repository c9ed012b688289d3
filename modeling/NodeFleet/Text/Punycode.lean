/-!
# Labels of domains in ASCII

A label with characters outside ASCII is written as its ASCII characters, a hyphen, and the places
and values of the others.  These are inserted in the order of their values: each insertion is
one number, which counts the ways to insert that were passed over since the last one.

A number is written in digits of base 36, the least first.  It ends at the first digit below a
threshold, and the thresholds follow a bias that adapts to the size of the numbers so far.
-/

namespace NodeFleet.Text.Punycode

/-- The base of the digits. -/
def base : Nat := 36

/-- The value of a digit. -/
def digit? (c : Char) : Option Nat :=
  if 'a' ≤ c ∧ c ≤ 'z' then some (c.toNat - 'a'.toNat)
  else if '0' ≤ c ∧ c ≤ '9' then some (c.toNat - '0'.toNat + 26)
  else none

def leastThreshold : Nat := 1

def greatestThreshold : Nat := 26

/-- The threshold of a digit; `level` is the base times the place of the digit, counted from one. -/
def threshold (bias level : Nat) : Nat :=
  max leastThreshold (min greatestThreshold (level - bias))

/-- Reads a number; each digit counts `weight`. -/
def readNumber? (bias level weight : Nat) : List Char → Option (Nat × List Char)
  | [] => none
  | c :: rest => do
      let d ← digit? c
      let t := threshold bias level
      if d < t then return (d * weight, rest)
      else
        let (n, rest) ← readNumber? bias (level + base) (weight * (base - t)) rest
        return (d * weight + n, rest)

/-- The least value of a character that is inserted. -/
def firstValue : Nat := 0x80

/-- The bias of the first number. -/
def firstBias : Nat := 72

/-- The bias for numbers of about a size: the base for every division that brings the size down to
what two digits hold, and a share of it for what remains. -/
def biasOf (size : Nat) : Nat :=
  if (base - leastThreshold) * greatestThreshold / 2 < size then
    base + biasOf (size / (base - leastThreshold))
  else base * size / (size + 38)
termination_by size
decreasing_by
  next large => exact Nat.div_lt_self (Nat.lt_of_le_of_lt (Nat.zero_le _) large) (by decide)

/-- The bias after a number, when there are so many characters.  The first number is damped more. -/
def nextBias (n count : Nat) (isFirst : Bool) : Nat :=
  let n := if isFirst then n / 700 else n / 2
  biasOf (n + n / count)

/-- What has been decoded of a label. -/
structure State where
  found : List Char
  /-- The value of the next character to insert. -/
  value : Nat
  /-- The place where it would be inserted next; zero before the first insertion only. -/
  place : Nat
  bias : Nat

/-- The character with a value, if there is one. -/
def scalar? (n : Nat) : Option Char :=
  if n.isValidChar then some (Char.ofNat n) else none

/-- Inserts characters, at most `fuel`, as the numbers in a text say. -/
def insert? : Nat → State → List Char → Option (List Char)
  | _, s, [] => some s.found
  | 0, _, _ => none
  | fuel + 1, s, cs => do
      let (n, rest) ← readNumber? s.bias base 1 cs
      let count := s.found.length + 1
      let passed := s.place + n
      let value := s.value + passed / count
      let place := passed % count
      let c ← scalar? value
      insert? fuel
        { found := s.found.take place ++ c :: s.found.drop place
          value
          place := place + 1
          bias := nextBias n count (s.place = 0) } rest

/-- The ASCII characters in front of the last hyphen, and what follows it. -/
def cutBasic (cs : List Char) : List Char × List Char :=
  let back := (cs.reverse.takeWhile (· ≠ '-')).reverse
  match cs.take (cs.length - back.length) with
  | [] => ([], cs)
  | ['-'] => ([], cs)
  | front => (front.dropLast, back)

/-- The characters of a label in lower case. -/
def decode? (cs : List Char) : Option (List Char) :=
  let (basic, rest) := cutBasic cs
  insert? rest.length { found := basic, value := firstValue, place := 0, bias := firstBias } rest

end NodeFleet.Text.Punycode
