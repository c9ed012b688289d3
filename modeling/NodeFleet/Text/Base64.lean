/-!
# Base 64

Three bytes are written as four digits of six bits each.  One or two bytes at the end take two or
three digits, whose last bits are zero, and may be filled up to four with signs of equality.
-/

namespace NodeFleet.Text.Base64

/-- The value of a digit. -/
def digit? (c : Char) : Option Nat :=
  if 'A' ≤ c ∧ c ≤ 'Z' then some (c.toNat - 'A'.toNat)
  else if 'a' ≤ c ∧ c ≤ 'z' then some (c.toNat - 'a'.toNat + 26)
  else if '0' ≤ c ∧ c ≤ '9' then some (c.toNat - '0'.toNat + 52)
  else if c = '+' then some 62
  else if c = '/' then some 63
  else none

/-- The bytes of digits: three for every four digits. -/
def bytesOf : List Nat → Option (List Nat)
  | [] => some []
  | [a, b] => if b % 16 = 0 then some [4 * a + b / 16] else none
  | [a, b, c] => if c % 4 = 0 then some [4 * a + b / 16, b % 16 * 16 + c / 4] else none
  | a :: b :: c :: d :: rest =>
      (bytesOf rest).map fun bytes =>
        [4 * a + b / 16, b % 16 * 16 + c / 4, c % 4 * 64 + d] ++ bytes
  | [_] => none

/-- Whether so many digits may be filled up with so many signs: to four at most. -/
def isFilledBy (digits signs : Nat) : Bool :=
  signs = 0 || (2 ≤ digits % 4 && digits % 4 + signs ≤ 4)

/-- The bytes of a text.  The signs that fill up its end may be left out. -/
def decode? (cs : List Char) : Option (List Nat) :=
  let digits := cs.takeWhile (· ≠ '=')
  let signs := cs.dropWhile (· ≠ '=')
  if signs.all (· = '=') && isFilledBy digits.length signs.length then
    (digits.mapM digit?).bind bytesOf
  else none

end NodeFleet.Text.Base64
