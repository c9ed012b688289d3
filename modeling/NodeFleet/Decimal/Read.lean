import NodeFleet.Text.Numeral

/-!
# Reading a decimal as a floating-point number

A decimal is digits with at most one point among them, a sign in front and an exponent
behind if wanted, or one of the names `inf`, `infinity` and `nan` in letters of either
case.  `Decimal.read?` gives the double nearest to it; `Decimal.nearest` rounds a
quotient of natural numbers in exact arithmetic, a tie to the even neighbour.
-/

namespace NodeFleet.Decimal

open NodeFleet.Text

/-! ## Rounding a quotient -/

/-- The greatest `e` with `2 ^ e ≤ num / den`, for positive `num` and `den`. -/
def floorLog (num den : Nat) : Int :=
  let guess : Int := (num.log2 : Int) - den.log2
  if num * 2 ^ (-guess).toNat < den * 2 ^ guess.toNat then guess - 1 else guess

/-- The quotient rounded to a natural number, a tie to the even one. -/
def roundQuotient (num den : Nat) : Nat :=
  let whole := num / den
  let rest := num % den
  if den < 2 * rest ∨ (den = 2 * rest ∧ whole % 2 = 1) then whole + 1 else whole

def infinityBits : Nat :=
  2047 * 2 ^ 52

/-- The bits of the double nearest to `num / den`, for a positive `den`.  The power of two that the
significand is multiplied by is chosen so that it has 53 binary digits, or fewer at the lowest
power.  A significand that is rounded up to one digit more carries into the exponent. -/
def nearestBits (num den : Nat) : Nat :=
  if num = 0 then 0
  else
    let exponent := max (floorLog num den - 52) (-1074)
    let significand := roundQuotient (num * 2 ^ (-exponent).toNat) (den * 2 ^ exponent.toNat)
    min ((exponent + 1074).toNat * 2 ^ 52 + significand) infinityBits

/-- The double nearest to `num / den`, for a positive `den`. -/
def nearest (num den : Nat) : Float :=
  Float.ofBits (UInt64.ofNat (nearestBits num den))

/-- The double nearest to `digits * 10 ^ exponent`.  A decimal that is far outside the range of the
doubles is not computed. -/
def ofDigits (digits : Nat) (exponent : Int) : Float :=
  let size := ((Numeral.write digits).length : Int) + exponent
  if digits = 0 ∨ size < -400 then 0.0
  else if 400 < size then 1.0 / 0.0
  else nearest (digits * 10 ^ exponent.toNat) (10 ^ (-exponent).toNat)

/-! ## The grammar -/

/-- A sign, if there is one, and the text after it; true stands for minus. -/
def cutSign : List Char → Bool × List Char
  | '-' :: rest => (true, rest)
  | '+' :: rest => (false, rest)
  | cs => (false, cs)

/-- The digits at the start of a text and the text after them. -/
def cutDigits (cs : List Char) : List Char × List Char :=
  (cs.takeWhile Char.isDigit, cs.dropWhile Char.isDigit)

/-- The value of a run of digits, zero for none. -/
def valueOf (digits : List Char) : Nat :=
  (Numeral.continue? 0 digits).getD 0

/-- The exponent that a whole text stands for: nothing, or a letter, a sign and digits. -/
def exponent? : List Char → Option Int
  | [] => some 0
  | c :: rest =>
      if c = 'e' ∨ c = 'E' then
        let (isNegative, rest) := cutSign rest
        match cutDigits rest with
        | (_ :: _, _ :: _) => none
        | ([], _) => none
        | (digits, []) =>
            let size : Int := valueOf digits
            some (if isNegative then 0 - size else size)
      else none

/-- The double of a decimal without a sign. -/
def unsigned? (cs : List Char) : Option Float :=
  let (whole, rest) := cutDigits cs
  let (fraction, rest) := match rest with
    | '.' :: rest => cutDigits rest
    | rest => ([], rest)
  if whole = [] ∧ fraction = [] then none
  else
    (exponent? rest).map fun exponent =>
      ofDigits (valueOf (whole ++ fraction)) (exponent - (fraction.length : Int))

/-- The double of a name in letters of either case. -/
def named? (cs : List Char) : Option Float :=
  let name := String.ofList (cs.map Char.toLower)
  if name = "inf" ∨ name = "infinity" then some (1.0 / 0.0)
  else if name = "nan" then some (0.0 / 0.0)
  else none

/-- The double that a whole text stands for. -/
def read? (cs : List Char) : Option Float :=
  let (isNegative, cs) := cutSign cs
  ((named? cs).or (unsigned? cs)).map fun x => if isNegative then -x else x

end NodeFleet.Decimal
