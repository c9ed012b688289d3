import NodeFleet.Decimal.Read
import NodeFleet.Setting
import NodeFleet.Timestamp
import NodeFleet.Toml.Text

/-!
# TOML: numbers, dates and times

An integer is decimal with a sign if wanted, or has one of the marks `0x`, `0o` and `0b` in
front and no sign.  A float has a point or an exponent, or is `inf` or `nan`.  Underscores may
stand between digits.  Dates and times serve as the text of their usual form; `Clock` says how far
their fields reach.
-/

namespace NodeFleet.Toml

open NodeFleet.Text

/-! ## Digits -/

/-- Reads more digits of a number, single underscores between them left out. -/
def readMore? (isDigit : Char → Bool) : List Char → Option (List Char × List Char)
  | '_' :: c :: rest =>
      if isDigit c then (readMore? isDigit rest).map fun found => (c :: found.1, found.2) else none
  | ['_'] => none
  | c :: rest =>
      if isDigit c then (readMore? isDigit rest).map fun found => (c :: found.1, found.2)
      else some ([], c :: rest)
  | [] => some ([], [])

def readRun? (isDigit : Char → Bool) : List Char → Option (List Char × List Char)
  | c :: rest =>
      if isDigit c then (readMore? isDigit rest).map fun found => (c :: found.1, found.2) else none
  | [] => none

/-- Reads the whole part of a number: it starts with zero only if it is zero. -/
def readWhole? : List Char → Option (List Char × List Char)
  | '0' :: rest => some (['0'], rest)
  | cs => readRun? Char.isDigit cs

/-! ## Integers and floats -/

/-- Reads the digits of an integer in another base than ten, below `2 ^ 63`. -/
def readBased? (base : Nat) (isDigit : Char → Bool) (cs : List Char) :
    Option (Setting × List Char) := do
  let (digits, rest) ← readRun? isDigit cs
  let value := digits.foldl (fun n c => base * n + (Percent.hexDigit? c).getD 0) 0
  if value < Setting.integerBound then some (.integer value, rest) else none

/-- Reads an exponent, its letter included, if one is there. -/
def readExponent? : List Char → Option (List Char × List Char)
  | c :: rest =>
      if c = 'e' ∨ c = 'E' then
        let (sign, rest) := match rest with
          | '-' :: rest => (['-'], rest)
          | '+' :: rest => ([], rest)
          | rest => ([], rest)
        (readRun? Char.isDigit rest).map fun found => ('e' :: sign ++ found.1, found.2)
      else some ([], c :: rest)
  | [] => some ([], [])

/-- Reads a fraction, its point included, if one is there. -/
def readFraction? : List Char → Option (List Char × List Char)
  | '.' :: rest => (readRun? Char.isDigit rest).map fun found => ('.' :: found.1, found.2)
  | cs => some ([], cs)

/-- Whether a double is infinity above all numbers. -/
def isTooLarge (x : Float) : Bool :=
  x.isInf && 0.0 < x

/-- Reads a decimal number after its sign: an integer unless a point or an exponent follows.  A
positive float that is too large is refused. -/
def readDecimal? (sign : List Char) (cs : List Char) : Option (Setting × List Char) := do
  let (whole, rest) ← readWhole? cs
  let (fraction, rest) ← readFraction? rest
  let (exponent, rest) ← readExponent? rest
  if fraction = [] ∧ exponent = [] then
    return (.integer (← Setting.readInteger? (sign ++ whole)), rest)
  else
    let x ← Decimal.read? (sign ++ whole ++ fraction ++ exponent)
    if isTooLarge x then none else return (.decimal x, rest)

/-- Reads a number after its sign. -/
def readSigned? (sign : List Char) (cs : List Char) : Option (Setting × List Char) :=
  match cs with
  | 'i' :: 'n' :: 'f' :: rest =>
      some (.decimal (if sign = ['-'] then -(1.0 / 0.0) else 1.0 / 0.0), rest)
  | 'n' :: 'a' :: 'n' :: rest => some (.decimal (0.0 / 0.0), rest)
  | _ => readDecimal? sign cs

def readNumber? : List Char → Option (Setting × List Char)
  | '0' :: 'x' :: rest => readBased? 16 (fun c => (Percent.hexDigit? c).isSome) rest
  | '0' :: 'o' :: rest => readBased? 8 (fun c => '0' ≤ c ∧ c ≤ '7') rest
  | '0' :: 'b' :: rest => readBased? 2 (fun c => c = '0' ∨ c = '1') rest
  | '-' :: rest => readSigned? ['-'] rest
  | '+' :: rest => readSigned? [] rest
  | cs => readSigned? [] cs

/-! ## Dates and times -/

/-- Reads a number of exactly `width` digits that lies between two bounds. -/
def readField? (width least greatest : Nat) (cs : List Char) : Option (Nat × List Char) := do
  let digits := cs.take width
  if digits.length = width ∧ digits.all Char.isDigit then
    let n ← Numeral.digits? digits
    if least ≤ n ∧ n ≤ greatest then some (n, cs.drop width) else none
  else none

/-- The text after a character that has to be there. -/
def cut? (c : Char) : List Char → Option (List Char)
  | d :: rest => if d = c then some rest else none
  | [] => none

/-- Reads a date and returns its usual form. -/
def readDate? (cs : List Char) : Option (List Char × List Char) := do
  let (year, rest) ← readField? 4 0 9999 cs
  let (month, rest) ← readField? 2 1 12 (← cut? '-' rest)
  let (day, rest) ← readField? 2 1 (Timestamp.daysInMonth year month) (← cut? '-' rest)
  return (Numeral.padded 4 year ++ '-' :: Numeral.padded 2 month ++ '-' :: Numeral.padded 2 day,
    rest)

/-- A fraction of a second from its digits: nine at most, no zeros at the end. -/
def fractionText (digits : List Char) : List Char :=
  match ((digits.take 9).reverse.dropWhile (· = '0')).reverse with
  | [] => []
  | digits => '.' :: digits

/-- How far the fields of a time of day and of an offset from universal time reach. -/
structure Clock where
  lastHour : Nat
  /-- The greatest number of hours in an offset. -/
  offsetHours : Nat
  /-- The greatest number of minutes beside the hours in an offset. -/
  offsetMinutes : Nat

/-- The fields of a value in a document. -/
def Clock.strict : Clock :=
  { lastHour := 23, offsetHours := 23, offsetMinutes := 59 }

/-- The fields of a text that stands for a date or a time. -/
def Clock.lenient : Clock :=
  { lastHour := 24, offsetHours := 99, offsetMinutes := 99 }

/-- Reads a time of day and returns its usual form. -/
def readTime? (clock : Clock) (cs : List Char) : Option (List Char × List Char) := do
  let (hour, rest) ← readField? 2 0 clock.lastHour cs
  let (minute, rest) ← readField? 2 0 59 (← cut? ':' rest)
  let (second, rest) ← readField? 2 0 60 (← cut? ':' rest)
  let (fraction, rest) := match rest with
    | '.' :: d :: tail =>
        if d.isDigit then
          (fractionText ((d :: tail).takeWhile Char.isDigit), (d :: tail).dropWhile Char.isDigit)
        else ([], rest)
    | _ => ([], rest)
  return (Numeral.padded 2 hour ++ ':' :: Numeral.padded 2 minute ++ ':' ::
    Numeral.padded 2 second ++ fraction, rest)

/-- The usual form of an offset of some minutes. -/
def offsetText (sign : Char) (minutes : Nat) : List Char :=
  (if minutes = 0 then '+' else sign) :: Numeral.padded 2 (minutes / 60) ++
    ':' :: Numeral.padded 2 (minutes % 60)

/-- Reads an offset of at most a day after its sign and returns its usual form. -/
def readSignedOffset? (clock : Clock) (sign : Char) (cs : List Char) :
    Option (List Char × List Char) := do
  let (hours, rest) ← readField? 2 0 clock.offsetHours cs
  let (minutes, rest) ← readField? 2 0 clock.offsetMinutes (← cut? ':' rest)
  let total := 60 * hours + minutes
  if total ≤ 24 * 60 then some (offsetText sign total, rest) else none

/-- Reads an offset from universal time, if one is there, and returns its usual form. -/
def readOffset (clock : Clock) (cs : List Char) : List Char × List Char :=
  match cs with
  | 'Z' :: rest => (['Z'], rest)
  | 'z' :: rest => (['Z'], rest)
  | '+' :: rest => (readSignedOffset? clock '+' rest).getD ([], cs)
  | '-' :: rest => (readSignedOffset? clock '-' rest).getD ([], cs)
  | _ => ([], cs)

/-- Whether a character may stand between a date and a time. -/
def isTimeMark (c : Char) : Bool :=
  c = 'T' || c = 't' || c = ' '

/-- The time that follows a date, with its offset, and the text after it, if one is there. -/
def readTail? (clock : Clock) : List Char → Option (List Char × List Char)
  | c :: rest =>
      if isTimeMark c then do
        let (time, rest) ← readTime? clock rest
        let (offset, rest) := readOffset clock rest
        return ('T' :: time ++ offset, rest)
      else none
  | [] => none

/-- Reads a date, a time of day, or both, and returns its usual form. -/
def readMoment? (clock : Clock) (cs : List Char) : Option (String × List Char) :=
  match readDate? cs with
  | some (date, rest) =>
      match readTail? clock rest with
      | some (tail, rest) => some (String.ofList (date ++ tail), rest)
      | none => some (String.ofList date, rest)
  | none => (readTime? clock cs).map fun found => (String.ofList found.1, found.2)

/-- The usual form of a text that is nothing but a date, a time of day, or both. -/
def momentOfText? (text : String) : Option String :=
  match readMoment? .lenient text.toList with
  | some (found, []) => some found
  | _ => none

end NodeFleet.Toml
