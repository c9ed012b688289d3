import NodeFleet.Text.Utf8

/-!
# Percent-encoding

A byte is written as `%` and two hexadecimal digits.  Decoding replaces every such
triple by its byte, leaves a `%` that starts none as it is, and then reads the bytes
as UTF-8, which may fail.
-/

namespace NodeFleet.Text.Percent

/-- The value of a hexadecimal digit of either case. -/
def hexDigit? (c : Char) : Option Nat :=
  if '0' ≤ c ∧ c ≤ '9' then some (c.toNat - '0'.toNat)
  else if 'a' ≤ c ∧ c ≤ 'f' then some (c.toNat - 'a'.toNat + 10)
  else if 'A' ≤ c ∧ c ≤ 'F' then some (c.toNat - 'A'.toNat + 10)
  else none

/-- The upper-case hexadecimal digit that stands for `n % 16`. -/
def hexChar (n : Nat) : Char :=
  let d := n % 16
  if d < 10 then Char.ofNat ('0'.toNat + d) else Char.ofNat ('A'.toNat + (d - 10))

/-- The two hexadecimal digits of a byte after a percent sign. -/
def escape (byte : Nat) : List Char :=
  ['%', hexChar (byte / 16), hexChar byte]

/-- Escapes the UTF-8 bytes of the characters that `keep` refuses. -/
def encode (keep : Char → Bool) (cs : List Char) : List Char :=
  cs.flatMap fun c => if keep c then [c] else (Utf8.encodeChar c).flatMap escape

/-- The bytes of a text, each escape standing for one byte. -/
def bytes : List Char → List Nat
  | [] => []
  | '%' :: a :: b :: rest =>
      match hexDigit? a, hexDigit? b with
      | some high, some low => (16 * high + low) :: bytes rest
      | _, _ => '%'.toNat :: bytes (a :: b :: rest)
  | c :: rest => Utf8.encodeChar c ++ bytes rest

/-- The text that a percent-encoded text stands for, unless its bytes are not UTF-8. -/
def decode? (cs : List Char) : Option (List Char) :=
  Utf8.decode? (bytes cs)

end NodeFleet.Text.Percent
