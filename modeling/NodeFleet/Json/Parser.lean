import NodeFleet.Json
import NodeFleet.Text.Percent
import NodeFleet.Text.Numeral
import NodeFleet.Text.Split

/-!
# Reading JSON text

`Json.readValue` reads one value and returns the text after it, or nothing as rest
when the text stopped being JSON, in which case the value shows how far it got.
`Json.parse?` wants a whole text of one value.

A number keeps the digits that fit into a 64-bit word and takes the further ones
as powers of ten only, so it is within a few units in the last place of the decimal
it was written as, and exact up to fifteen digits and small exponents.
-/

namespace NodeFleet.Json

open NodeFleet.Text

/-- What was read, and the text after it unless the text stopped being JSON. -/
abbrev Reading (α : Type) := α × Option (List Char)

/-- The blanks between tokens. -/
def isSpace (c : Char) : Bool :=
  c = ' ' || c = '\n' || c = '\t' || c = '\r'

/-- The text after the blanks at its start. -/
def skipSpace (cs : List Char) : List Char :=
  cs.dropWhile isSpace

/-! ## Numbers -/

/-- The digits of a number that count: their value as a 64-bit word and the power of ten it is
multiplied by. -/
structure Significand where
  /-- The digits read so far. -/
  value : Nat
  /-- The power of ten. -/
  exponent : Int

/-- Appends one digit, if the value stays a 64-bit word. -/
def Significand.push? (s : Significand) (digit : Nat) : Option Nat :=
  if 10 * s.value + digit < 2 ^ 64 then some (10 * s.value + digit) else none

/-- Reads digits before the point: once one does not fit, it and all later ones only raise the
exponent. -/
def Significand.addWhole (s : Significand) : List Nat → Significand
  | [] => s
  | d :: rest =>
      match s.push? d with
      | some value => addWhole { s with value } rest
      | none => { s with exponent := s.exponent + (rest.length + 1 : Nat) }

/-- Reads digits after the point: once one does not fit, it and all later ones are dropped. -/
def Significand.addFraction (s : Significand) : List Nat → Significand
  | [] => s
  | d :: rest =>
      match s.push? d with
      | some value => addFraction { value, exponent := s.exponent - 1 } rest
      | none => s

/-- A power of ten as a double. -/
def tenToThe (n : Nat) : Float :=
  Float.ofScientific 1 false n

/-- Divides by `10 ^ 308` until the exponent is within reach of one division. -/
def shrink : Nat → Float → Nat → Float
  | 0, x, _ => x
  | fuel + 1, x, exponent =>
      if exponent ≤ 308 then x / tenToThe exponent
      else if x == 0.0 then x
      else shrink fuel (x / tenToThe 308) (exponent - 308)

/-- The double of a significand, or `none` where it is too large. -/
def Significand.toFloat? (s : Significand) : Option Float :=
  let x := (UInt64.ofNat s.value).toFloat
  if 0 ≤ s.exponent then
    if 308 < s.exponent then (if s.value = 0 then some x else none)
    else
      let y := x * tenToThe s.exponent.toNat
      if y.isInf then none else some y
  else some (shrink s.exponent.natAbs x s.exponent.natAbs)

/-- The longest run of digits at the start of a text and the text after it. -/
def takeDigits (cs : List Char) : List Nat × List Char :=
  ((cs.takeWhile Char.isDigit).map (fun c => c.toNat - '0'.toNat), cs.dropWhile Char.isDigit)

/-- The value of a run of digits. -/
def digitsValue (digits : List Nat) : Nat :=
  digits.foldl (fun value d => 10 * value + d) 0

/-- The double of a significand with the sign and the exponent that follow. -/
def finish (isNegative : Bool) (s : Significand) : Json :=
  match s.toFloat? with
  | none => .unreadable .valueless
  | some x => .number (.double (if isNegative then -x else x))

/-- Reads the exponent after its letter. -/
def readExponent (isNegative : Bool) (s : Significand) (cs : List Char) : Reading Json :=
  let (down, cs) := match cs with
    | '+' :: rest => (false, rest)
    | '-' :: rest => (true, rest)
    | _ => (false, cs)
  match takeDigits cs with
  | ([], _) => (.unreadable .broken, none)
  | (digits, rest) =>
      let size := digitsValue digits
      if 2 ^ 31 ≤ size then
        -- beyond every double, or zero
        if s.value ≠ 0 ∧ ¬ down then (.unreadable .valueless, some rest)
        else (.number (.double (if isNegative then -0.0 else 0.0)), some rest)
      else
        let exponent := if down then s.exponent - size else s.exponent + size
        (finish isNegative { s with exponent }, some rest)

/-- Reads a number after its sign. -/
def readUnsigned (isNegative : Bool) (cs : List Char) : Reading Json :=
  match takeDigits cs with
  | ([], _) => (.unreadable .broken, none)
  | (digits, rest) =>
      if digits.head? = some 0 ∧ 1 < digits.length then (.unreadable .broken, none)
      else
        let whole : Significand := Significand.addWhole ⟨0, 0⟩ digits
        match rest with
        | '.' :: rest =>
            match takeDigits rest with
            | ([], _) => (.unreadable .broken, none)
            | (fraction, rest) =>
                let s := whole.addFraction fraction
                match rest with
                | 'e' :: rest => readExponent isNegative s rest
                | 'E' :: rest => readExponent isNegative s rest
                | _ => (finish isNegative s, some rest)
        | 'e' :: rest => readExponent isNegative whole rest
        | 'E' :: rest => readExponent isNegative whole rest
        | _ =>
            if whole.exponent ≠ 0 then (finish isNegative whole, some rest)
            else if ¬ isNegative then (.number (.natural whole.value), some rest)
            else if 0 < whole.value ∧ whole.value ≤ 2 ^ 63 then
              (.number (.negative whole.value), some rest)
            else (finish true whole, some rest)

/-! ## Texts -/

/-- The number that four hexadecimal digits denote, and the text after them. -/
def readUnit? : List Char → Option (Nat × List Char)
  | a :: b :: c :: d :: rest => do
      let a ← Percent.hexDigit? a
      let b ← Percent.hexDigit? b
      let c ← Percent.hexDigit? c
      let d ← Percent.hexDigit? d
      return (((a * 16 + b) * 16 + c) * 16 + d, rest)
  | _ => none

/-- The character that a one-letter escape stands for. -/
def shortEscape? : Char → Option Char
  | '"' => some '"'
  | '\\' => some '\\'
  | '/' => some '/'
  | 'b' => some (Char.ofNat 8)
  | 'f' => some (Char.ofNat 12)
  | 'n' => some '\n'
  | 'r' => some '\r'
  | 't' => some '\t'
  | _ => none

/-- The character of a UTF-16 unit that is no surrogate, or of a pair of them. -/
inductive Unit16 where
  | whole (c : Char)
  /-- The first half of a pair, less its base. -/
  | high (bits : Nat)
  /-- The second half of a pair, less its base. -/
  | low (bits : Nat)

/-- Classifies a 16-bit unit. -/
def Unit16.ofNat (n : Nat) : Unit16 :=
  if 0xD800 ≤ n ∧ n < 0xDC00 then .high (n - 0xD800)
  else if 0xDC00 ≤ n ∧ n < 0xE000 then .low (n - 0xDC00)
  else .whole (Char.ofNat n)

/-- What the characters of a string literal have come to. -/
structure Literal where
  /-- The characters so far, last first. -/
  reversed : List Char
  /-- Whether every escape so far denotes a character. -/
  sound : Bool

/-- The text of a literal, if it denotes one. -/
def Literal.text? (l : Literal) : Option String :=
  if l.sound then some (String.ofList l.reversed.reverse) else none

/-- Puts an entry whose key is a literal in front of others. -/
def Literal.entries (l : Literal) (value : Json) (rest : List (String × Json)) :
    List (String × Json) :=
  match l.text? with
  | some key => (key, value) :: rest
  | none => ("", .unreadable .keyless) :: ("", value) :: rest

/-- Reads the characters up to the closing quotation mark.  The outer result is `none` where the
text stops being JSON. -/
def readLiteral : Nat → Literal → List Char → Option (Literal × List Char)
  | 0, _, _ => none
  | fuel + 1, l, cs =>
      match cs with
      | [] => none
      | '"' :: rest => some (l, rest)
      | '\\' :: 'u' :: rest => do
          let (first, rest) ← readUnit? rest
          match Unit16.ofNat first with
          | .whole c => readLiteral fuel { l with reversed := c :: l.reversed } rest
          | .low _ => readLiteral fuel { l with sound := false } rest
          | .high high =>
              match rest with
              | '\\' :: 'u' :: tail => do
                  let (second, tail) ← readUnit? tail
                  match Unit16.ofNat second with
                  | .low low =>
                      let c := Char.ofNat (0x10000 + high * 0x400 + low)
                      readLiteral fuel { l with reversed := c :: l.reversed } tail
                  | _ => readLiteral fuel { l with sound := false } rest
              | _ => readLiteral fuel { l with sound := false } rest
      | '\\' :: c :: rest => do
          let c ← shortEscape? c
          readLiteral fuel { l with reversed := c :: l.reversed } rest
      | c :: rest =>
          if c.toNat < 0x20 then none
          else readLiteral fuel { l with reversed := c :: l.reversed } rest

/-- Reads a text of fewer than `fuel` characters after its opening quotation mark. -/
def readString (fuel : Nat) (cs : List Char) : Option (Literal × List Char) :=
  readLiteral fuel ⟨[], true⟩ cs

/-! ## Values -/

/-- Reads the letters of a literal name. -/
def readName (name : String) (value : Json) (cs : List Char) : Reading Json :=
  match Text.after? name.toList cs with
  | some rest => (value, some rest)
  | none => (.unreadable .broken, none)

mutual

/-- Reads one value, blanks before it included. -/
def readValue : Nat → List Char → Reading Json
  | 0, _ => (.unreadable .broken, none)
  | fuel + 1, cs =>
      match skipSpace cs with
      | 'n' :: rest => readName "ull" .null rest
      | 't' :: rest => readName "rue" (.bool true) rest
      | 'f' :: rest => readName "alse" (.bool false) rest
      | '"' :: rest =>
          match readString fuel rest with
          | none => (.unreadable .broken, none)
          | some (l, rest) =>
              match l.text? with
              | some text => (.string text, some rest)
              | none => (.unreadable .valueless, some rest)
      | '[' :: rest =>
          match skipSpace rest with
          | ']' :: rest => (.array [], some rest)
          | _ =>
              let (items, rest) := readItems fuel rest
              (.array items, rest)
      | '\x7b' :: rest =>
          match skipSpace rest with
          | '\x7d' :: rest => (.object [], some rest)
          | _ =>
              let (entries, rest) := readEntries fuel rest
              (.object entries, rest)
      | '-' :: rest => readUnsigned true rest
      | cs => readUnsigned false cs

/-- Reads items up to the closing bracket, at least one. -/
def readItems : Nat → List Char → Reading (List Json)
  | 0, _ => ([.unreadable .broken], none)
  | fuel + 1, cs =>
      match readValue fuel cs with
      | (item, none) => ([item], none)
      | (item, some rest) =>
          match skipSpace rest with
          | ']' :: rest => ([item], some rest)
          | ',' :: rest =>
              let (items, rest) := readItems fuel rest
              (item :: items, rest)
          | _ => ([item, .unreadable .broken], none)

/-- Reads entries up to the closing brace, at least one. -/
def readEntries : Nat → List Char → Reading (List (String × Json))
  | 0, _ => ([("", .unreadable .broken)], none)
  | fuel + 1, cs =>
      match skipSpace cs with
      | '"' :: rest =>
          match readString fuel rest with
          | none => ([("", .unreadable .broken)], none)
          | some (l, rest) =>
              match skipSpace rest with
              | ':' :: rest =>
                  match readValue fuel rest with
                  | (value, none) => (l.entries value [], none)
                  | (value, some rest) =>
                      match skipSpace rest with
                      | '\x7d' :: rest => (l.entries value [], some rest)
                      | ',' :: rest =>
                          let (entries, rest) := readEntries fuel rest
                          (l.entries value entries, rest)
                      | _ => (l.entries value [("", .unreadable .broken)], none)
              | _ => (l.entries (.unreadable .broken) [], none)
      | _ => ([("", .unreadable .broken)], none)

end

/-- Reads the value at the start of a text. -/
def read (text : String) : Reading Json :=
  let cs := text.toList
  readValue (2 * cs.length + 2) cs

/-- The value at the start of a text, whatever follows it. -/
def parseFront (text : String) : Json :=
  (read text).1

/-- The value of a whole text: nothing but blanks may follow.  Where something does, the value is
followed by a point that cannot be read. -/
def parseWhole (text : String) : Json × Bool :=
  match read text with
  | (value, none) => (value, false)
  | (value, some rest) => (value, skipSpace rest = [])

/-- The value that a whole text denotes. -/
def parse? (text : String) : Option Json :=
  match parseWhole text with
  | (value, true) => if value.readable then some value else none
  | (_, false) => none

end NodeFleet.Json
