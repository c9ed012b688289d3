import NodeFleet.Text.Numeral

/-!
# Shortest decimal text of a floating-point number

Every finite double stands for the reals that round to it.  Its shortest decimal
is the one with the fewest digits among those reals, and of several with that
many digits the one nearest to the number, the greater one of two equally near.
`Decimal.shortest` finds it in exact arithmetic on natural numbers; `Decimal.text`
writes it without an exponent.
-/

namespace NodeFleet.Decimal

open NodeFleet.Text

/-- A positive double as `mantissa * 2 ^ exponent`, with the weight of half the gap below it:
one quarter of the unit at a power of two, one half elsewhere. -/
structure Binary where
  /-- The integral significand. -/
  mantissa : Nat
  /-- The power of two that it is multiplied by. -/
  exponent : Int
  /-- Quarters of a unit from the number down to the lowest real that rounds to it. -/
  below : Nat

/-- Splits the bits of a finite double other than zero, the sign dropped. -/
def Binary.ofBits (bits : Nat) : Binary :=
  let fraction : Nat := bits % 2 ^ 52
  let field : Nat := bits / 2 ^ 52 % 2 ^ 11
  if field = 0 then { mantissa := fraction, exponent := -1074, below := 2 }
  else
    { mantissa := 2 ^ 52 + fraction, exponent := (field : Int) - 1075
      below := if fraction = 0 ∧ 1 < field then 1 else 2 }

/-- `quarters / 4 * 2 ^ exponent` as a numerator over `Binary.denominator`. -/
def Binary.numerator (b : Binary) (quarters : Nat) : Nat :=
  quarters * 2 ^ b.exponent.toNat

/-- The denominator that belongs to `Binary.numerator`. -/
def Binary.denominator (b : Binary) : Nat :=
  4 * 2 ^ (-b.exponent).toNat

/-- A decimal `digits * 10 ^ exponent`. -/
structure Digits where
  /-- The significant digits as one number. -/
  digits : Nat
  /-- The power of ten they are multiplied by. -/
  exponent : Int

/-- The number of digits of the whole part of `num / den`; for a number below one, minus the
number of zeros after the point. -/
def magnitude (num den : Nat) : Int :=
  if den ≤ num then ((Numeral.write (num / den)).length : Nat)
  else
    let zeros : Nat := ((List.range 400).find? fun zeros => den ≤ num * 10 ^ (zeros + 1)).getD 400
    0 - (zeros : Int)

/-- The nearer of the two neighbours of the number on the grid of `count` digits that lie among
the reals rounding to it, if one does; of two that are equally near the greater. -/
def onGrid? (b : Binary) (count : Nat) : Option Digits :=
  let den := b.denominator
  let value := b.numerator (4 * b.mantissa)
  let low := b.numerator (4 * b.mantissa - b.below)
  let high := b.numerator (4 * b.mantissa + 2)
  let exponent := magnitude value den - count
  -- multiply by `scale` and divide by `unit` to pass to the grid
  let unit := den * 10 ^ exponent.toNat
  let scale := 10 ^ (-exponent).toNat
  let floor := value * scale / unit
  let inside (digits : Nat) : Bool :=
    let point := digits * unit
    if b.mantissa % 2 = 0 then low * scale ≤ point ∧ point ≤ high * scale
    else low * scale < point ∧ point < high * scale
  let distance (digits : Nat) : Nat :=
    (value * scale - digits * unit) + (digits * unit - value * scale)
  let candidates := [floor, floor + 1].filter inside
  let nearest := candidates.foldl (fun (best : Option Nat) digits =>
    match best with
    | none => some digits
    | some other => if distance digits ≤ distance other then some digits else some other) none
  nearest.map fun digits => ⟨digits, exponent⟩

/-- The shortest decimal that rounds to the number. -/
def shortest (b : Binary) : Digits :=
  ((List.range 17).findSome? fun n => onGrid? b (n + 1)).getD ⟨0, 0⟩

/-- A decimal written without an exponent. -/
def Digits.positional (d : Digits) : List Char :=
  let digits := Numeral.write d.digits
  if 0 ≤ d.exponent then digits ++ List.replicate d.exponent.toNat '0'
  else
    let places := (-d.exponent).toNat
    let padded := Numeral.padded (places + 1) d.digits
    let whole := padded.take (padded.length - places)
    let fraction := ((padded.drop (padded.length - places)).reverse.dropWhile (· = '0')).reverse
    if fraction = [] then whole else whole ++ '.' :: fraction

/-- The text of a double: the shortest digits that round to it, without an exponent and without
a point where there is no fraction. -/
def text (x : Float) : String :=
  let bits := x.toBits.toNat
  let sign := if 2 ^ 63 ≤ bits then "-" else ""
  let size := bits % 2 ^ 63
  if x.isNaN then "NaN"
  else if x.isInf then sign ++ "inf"
  else if size = 0 then sign ++ "0"
  else sign ++ String.ofList (shortest (Binary.ofBits size)).positional

end NodeFleet.Decimal
