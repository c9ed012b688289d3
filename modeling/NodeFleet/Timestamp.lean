import NodeFleet.Text.Blank
import NodeFleet.Text.Numeral
import NodeFleet.Text.Split

/-!
# Points of wall-clock time

A timestamp counts seconds since the start of 1970 in universal time, with the
nanoseconds of the second beside it; a leap second is written as more than `10 ^ 9`
nanoseconds of the second before it.  Calendar dates are those of the proleptic
Gregorian calendar, for years from -262143 to 262142.

Timestamps are written as `2024-05-01T12:30:00.250Z`, with zero, three, six or nine
decimal places.  The reader is more tolerant: blanks around the parts, one or two digits
for a part, any number of decimal places, and any offset from universal time.
-/

namespace NodeFleet

open Text

/-- A point of wall-clock time. -/
structure Timestamp where
  /-- Whole seconds since the start of 1970. -/
  second : Int
  /-- Nanoseconds of the second, more than `10 ^ 9` in a leap second. -/
  nano : Nat
  deriving DecidableEq

namespace Timestamp

/-! ## Milliseconds -/

/-- The timestamp a number of milliseconds after the start of 1970. -/
def ofMillis (ms : Int) : Timestamp :=
  { second := ms / 1000, nano := (ms % 1000).toNat * 1000000 }

/-- Whole milliseconds since the start of 1970. -/
def millis (t : Timestamp) : Int :=
  t.second * 1000 + (t.nano / 1000000 : Nat)

/-- The timestamp a number of nanoseconds later. -/
def later (t : Timestamp) (nanos : Nat) : Timestamp :=
  { second := t.second + ((t.nano + nanos) / 1000000000 : Nat)
    nano := (t.nano + nanos) % 1000000000 }

/-! ## The calendar -/

/-- A calendar date. -/
structure Date where
  year : Int
  /-- The month, from 1. -/
  month : Nat
  /-- The day of the month, from 1. -/
  day : Nat
  deriving DecidableEq

/-- Whether a year has a 29th of February. -/
def isLeapYear (year : Int) : Bool :=
  year % 4 = 0 && (year % 100 ≠ 0 || year % 400 = 0)

/-- The number of days of a month. -/
def daysInMonth (year : Int) (month : Nat) : Nat :=
  if month = 2 then (if isLeapYear year then 29 else 28)
  else if month = 4 ∨ month = 6 ∨ month = 9 ∨ month = 11 then 30
  else 31

/-- Whether a date exists and its year can be represented. -/
def Date.isValid (d : Date) : Bool :=
  -262143 ≤ d.year && d.year ≤ 262142 && 1 ≤ d.month && d.month ≤ 12 && 1 ≤ d.day &&
    d.day ≤ daysInMonth d.year d.month

/-- Days from the start of 1970 to a date.  Years are counted from March, so that the leap day
is the last of its year. -/
def Date.toDays (d : Date) : Int :=
  let year : Int := if d.month ≤ 2 then d.year - 1 else d.year
  let era : Int := year / 400
  let yearOfEra : Int := year % 400
  let month : Int := ((d.month + 9) % 12 : Nat)
  let dayOfYear : Int := (153 * month + 2) / 5 + d.day - 1
  let dayOfEra : Int := yearOfEra * 365 + yearOfEra / 4 - yearOfEra / 100 + dayOfYear
  era * 146097 + dayOfEra - 719468

/-- The date a number of days after the start of 1970. -/
def Date.ofDays (days : Int) : Date :=
  let shifted := days + 719468
  let era := shifted / 146097
  let dayOfEra := shifted % 146097
  let yearOfEra := (dayOfEra - dayOfEra / 1460 + dayOfEra / 36524 - dayOfEra / 146096) / 365
  let dayOfYear := dayOfEra - (365 * yearOfEra + yearOfEra / 4 - yearOfEra / 100)
  let month := (5 * dayOfYear + 2) / 153
  let day := dayOfYear - (153 * month + 2) / 5 + 1
  let calendarMonth := if month < 10 then month + 3 else month - 9
  { year := yearOfEra + era * 400 + (if calendarMonth ≤ 2 then 1 else 0)
    month := calendarMonth.toNat
    day := day.toNat }

/-- The date on which a timestamp falls. -/
def date (t : Timestamp) : Date :=
  Date.ofDays (t.second / 86400)

/-! ## Writing -/

/-- A year: four digits, or a sign and at least four digits where it does not have four. -/
def yearChars (year : Int) : List Char :=
  if 0 ≤ year ∧ year ≤ 9999 then Numeral.padded 4 year.toNat
  else (if year < 0 then '-' else '+') :: Numeral.padded 4 year.natAbs

/-- The date part. -/
def dateChars (t : Timestamp) : List Char :=
  let d := t.date
  yearChars d.year ++ '-' :: Numeral.padded 2 d.month ++ '-' :: Numeral.padded 2 d.day

/-- The time of the day, without a fraction. -/
def timeChars (t : Timestamp) : List Char :=
  let ofDay := (t.second % 86400).toNat
  let second := ofDay % 60 + t.nano / 1000000000
  Numeral.padded 2 (ofDay / 3600) ++ ':' :: Numeral.padded 2 (ofDay / 60 % 60) ++
    ':' :: Numeral.padded 2 second

/-- The fraction of the second in three, six or nine places; none where it is zero. -/
def fractionChars (nano : Nat) : List Char :=
  if nano = 0 then []
  else if nano % 1000000 = 0 then '.' :: Numeral.padded 3 (nano / 1000000)
  else if nano % 1000 = 0 then '.' :: Numeral.padded 6 (nano / 1000)
  else '.' :: Numeral.padded 9 nano

/-- The characters of a timestamp in universal time. -/
def chars (t : Timestamp) : List Char :=
  t.dateChars ++ 'T' :: t.timeChars ++ fractionChars (t.nano % 1000000000) ++ ['Z']

/-- The text of a timestamp in universal time. -/
def text (t : Timestamp) : String :=
  String.ofList t.chars

/-- The text of a timestamp in tables: date and time of the day, without a fraction. -/
def tableText (t : Timestamp) : String :=
  String.ofList (t.dateChars ++ ' ' :: t.timeChars)

/-! ## Reading -/

/-- Drops the blanks at the start. -/
def skipBlanks (cs : List Char) : List Char :=
  cs.dropWhile isBlank

/-- Reads one to `width` digits. -/
def digits? (width : Nat) (cs : List Char) : Option (Nat × List Char) :=
  let run := (cs.take width).takeWhile Char.isDigit
  (Numeral.digits? run).map fun n => (n, cs.drop run.length)

/-- Reads a number of at most `width` digits after blanks. -/
def part? (width : Nat) (cs : List Char) : Option (Nat × List Char) :=
  digits? width (skipBlanks cs)

/-- Reads a year: up to four digits, or a sign and any number of digits. -/
def year? (cs : List Char) : Option (Int × List Char) :=
  match skipBlanks cs with
  | '-' :: rest => (digits? rest.length rest).map fun found => (0 - (found.1 : Int), found.2)
  | '+' :: rest => (digits? rest.length rest).map fun found => ((found.1 : Int), found.2)
  | rest => (digits? 4 rest).map fun found => ((found.1 : Int), found.2)

/-- Reads a separator after blanks. -/
def mark? (mark : Char) (cs : List Char) : Option (List Char) :=
  match skipBlanks cs with
  | c :: rest => if c = mark then some rest else none
  | [] => none

/-- Reads the fraction of a second: the first nine digits count. -/
def fraction? (cs : List Char) : Option (Nat × List Char) :=
  match cs with
  | '.' :: rest =>
      let run := rest.takeWhile Char.isDigit
      let kept := run.take 9
      (Numeral.digits? kept).map fun n => (n * 10 ^ (9 - kept.length), rest.drop run.length)
  | _ => some (0, cs)

/-- Reads two digits. -/
def twoDigits? : List Char → Option (Nat × List Char)
  | a :: b :: rest => do
      let a ← Numeral.digit? a
      let b ← Numeral.digit? b
      return (10 * a + b, rest)
  | _ => none

/-- Reads the size of an offset: hours, an optional separator and minutes. -/
def offsetSize? (cs : List Char) : Option (Nat × List Char) := do
  let (hours, rest) ← twoDigits? cs
  let (minutes, rest) ← twoDigits? (rest.dropWhile fun c => c = ':' || isBlank c)
  if minutes < 60 then some (3600 * hours + 60 * minutes, rest) else none

/-- Whether the characters start with `UTC` in any case. -/
def startsWithUtc : List Char → Bool
  | u :: t :: c :: _ => (u = 'U' || u = 'u') && (t = 'T' || t = 't') && (c = 'C' || c = 'c')
  | _ => false

/-- Reads the offset from universal time, in seconds. -/
def offset? (cs : List Char) : Option (Int × List Char) :=
  if startsWithUtc cs then some (0, cs.drop 3)
  else
    match cs with
    | 'Z' :: rest => some (0, rest)
    | 'z' :: rest => some (0, rest)
    | '+' :: rest => (offsetSize? rest).map fun found => ((found.1 : Int), found.2)
    | '-' :: rest => (offsetSize? rest).map fun found => (0 - (found.1 : Int), found.2)
    | '−' :: rest => (offsetSize? rest).map fun found => (0 - (found.1 : Int), found.2)
    | _ => none

/-- The timestamp of a date, a time of the day and an offset, if all of them are possible. -/
def ofParts? (date : Date) (hour minute second nano : Nat) (offset : Int) : Option Timestamp :=
  if date.isValid ∧ hour < 24 ∧ minute < 60 ∧ second ≤ 60 ∧ offset.natAbs < 86400 then
    let isLeap := second = 60
    let ofDay : Nat := 3600 * hour + 60 * minute + (if isLeap then 59 else second)
    let t : Timestamp :=
      { second := date.toDays * 86400 + ofDay - offset
        nano := if isLeap then nano + 1000000000 else nano }
    if t.date.isValid then some t else none
  else none

def readChars? (cs : List Char) : Option Timestamp := do
  let (year, rest) ← year? cs
  let rest ← mark? '-' rest
  let (month, rest) ← part? 2 rest
  let rest ← mark? '-' rest
  let (day, rest) ← part? 2 rest
  let rest ← match rest with
    | 'T' :: rest => some rest
    | 't' :: rest => some rest
    | ' ' :: rest => some rest
    | _ => none
  let (hour, rest) ← part? 2 rest
  let rest ← mark? ':' rest
  let (minute, rest) ← part? 2 rest
  let rest ← mark? ':' rest
  let (second, rest) ← part? 2 rest
  let (nano, rest) ← fraction? rest
  let (offset, rest) ← offset? (skipBlanks rest)
  if skipBlanks rest = [] then ofParts? ⟨year, month, day⟩ hour minute second nano offset
  else none

def read? (text : String) : Option Timestamp :=
  readChars? text.toList

end Timestamp

end NodeFleet
