import NodeFleet.Power

/-!
# UTF-8

Characters as bytes and back.  `decode?` accepts exactly the shortest encodings of
the Unicode scalar values, so it is the inverse of `encode` and refuses overlong
forms, surrogates, stray and missing continuation bytes.
-/

namespace NodeFleet.Text.Utf8

/-- The bytes of a character, as numbers. -/
def encodeChar (c : Char) : List Nat :=
  let n := c.toNat
  if n < 0x80 then [n]
  else if n < 0x800 then [0xC0 + n / 2 ^ 6, 0x80 + n % 2 ^ 6]
  else if n < 0x10000 then [0xE0 + n / 2 ^ 12, 0x80 + n / 2 ^ 6 % 2 ^ 6, 0x80 + n % 2 ^ 6]
  else
    [0xF0 + n / 2 ^ 18, 0x80 + n / 2 ^ 12 % 2 ^ 6, 0x80 + n / 2 ^ 6 % 2 ^ 6, 0x80 + n % 2 ^ 6]

/-- The bytes of a text. -/
def encode (cs : List Char) : List Nat :=
  cs.flatMap encodeChar

/-- The payload of a continuation byte. -/
def continuation? (byte : Nat) : Option Nat :=
  if 0x80 ≤ byte ∧ byte < 0xC0 then some (byte - 0x80) else none

/-- The character with the given number, if it is a scalar value of at least `least`. -/
def scalar? (least n : Nat) : Option Char :=
  if least ≤ n ∧ n.isValidChar then some (Char.ofNat n) else none

/-- The first character of a byte sequence and the bytes after it. -/
def head? : List Nat → Option (Char × List Nat)
  | [] => none
  | a :: rest =>
      if a < 0x80 then some (Char.ofNat a, rest)
      else if 0xC0 ≤ a ∧ a < 0xE0 then
        match rest with
        | b :: rest => do
            let b ← continuation? b
            let c ← scalar? 0x80 ((a - 0xC0) * 2 ^ 6 + b)
            return (c, rest)
        | _ => none
      else if 0xE0 ≤ a ∧ a < 0xF0 then
        match rest with
        | b :: c :: rest => do
            let b ← continuation? b
            let c ← continuation? c
            let d ← scalar? 0x800 (((a - 0xE0) * 2 ^ 6 + b) * 2 ^ 6 + c)
            return (d, rest)
        | _ => none
      else if 0xF0 ≤ a ∧ a < 0xF8 then
        match rest with
        | b :: c :: d :: rest => do
            let b ← continuation? b
            let c ← continuation? c
            let d ← continuation? d
            let e ← scalar? 0x10000 ((((a - 0xF0) * 2 ^ 6 + b) * 2 ^ 6 + c) * 2 ^ 6 + d)
            return (e, rest)
        | _ => none
      else none

/-- Decodes at most `count` characters; `none` if a byte sequence is no character. -/
def decodeUpTo? : Nat → List Nat → Option (List Char)
  | _, [] => some []
  | 0, _ :: _ => none
  | count + 1, bytes => do
      let (c, rest) ← head? bytes
      let cs ← decodeUpTo? count rest
      return c :: cs

/-- The text of a byte sequence. -/
def decode? (bytes : List Nat) : Option (List Char) :=
  decodeUpTo? bytes.length bytes

end NodeFleet.Text.Utf8
