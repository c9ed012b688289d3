import NodeFleet.Text.Numeral

/-!
# Durations and instants

A duration is a number of nanoseconds, at most `Duration.max`: the seconds of a
duration are a 64-bit word.  Sums and products that would pass the bound are
refused (`add?`, `scale?`) or stop at it (`scaleSaturating`), and nothing else
changes a value, so all arithmetic is arithmetic of natural numbers.  An instant
is the duration since the clock was started.

`Duration.text` writes a duration in the largest unit that leaves a whole part,
with the fraction's trailing zeros dropped: `0ns`, `10ms`, `1.5s`.
-/

namespace NodeFleet

/-- A length of time in nanoseconds. -/
abbrev Duration := Nat

/-- A point of the clock, in nanoseconds since it was started. -/
abbrev Instant := Nat

namespace Duration

/-- Nanoseconds in a second. -/
def second : Nat := 1000000000

/-- Nanoseconds in a millisecond. -/
def millisecond : Nat := 1000000

/-- The longest duration. -/
def max : Duration := (2 ^ 64 - 1) * second + (second - 1)

/-- The duration of `n` seconds. -/
def ofSeconds (n : Nat) : Duration := n * second

/-- The duration of `n` milliseconds. -/
def ofMillis (n : Nat) : Duration := n * millisecond

/-- The duration of whole seconds and a number of nanoseconds. -/
def ofParts (seconds nanos : Nat) : Duration := seconds * second + nanos

/-- The whole seconds of a duration. -/
def seconds (d : Duration) : Nat := d / second

/-- The nanoseconds of a duration beyond its whole seconds. -/
def subsecond (d : Duration) : Nat := d % second

/-- The whole milliseconds of a duration. -/
def millis (d : Duration) : Nat := d / millisecond

/-- The duration, if it does not pass the bound. -/
def checked (d : Duration) : Option Duration := if d ≤ max then some d else none

/-- The sum, unless it passes the bound. -/
def add? (d e : Duration) : Option Duration := checked (d + e)

/-- The product, unless it passes the bound. -/
def scale? (d : Duration) (factor : Nat) : Option Duration := checked (d * factor)

/-- The product, or the bound where the product passes it. -/
def scaleSaturating (d : Duration) (factor : Nat) : Duration := min (d * factor) max

/-- A fraction of `places` decimal places without its trailing zeros, after a point. -/
def fractionText (places fraction : Nat) : List Char :=
  let digits := ((Text.Numeral.padded places fraction).reverse.dropWhile (· = '0')).reverse
  if digits = [] then [] else '.' :: digits

def text (d : Duration) : String :=
  let write (whole places fraction : Nat) (unit : String) : String :=
    String.ofList (Text.Numeral.write whole ++ fractionText places fraction) ++ unit
  if second ≤ d then write (d / second) 9 (d % second) "s"
  else if millisecond ≤ d then write (d / millisecond) 6 (d % millisecond) "ms"
  else if 1000 ≤ d then write (d / 1000) 3 (d % 1000) "µs"
  else write d 0 0 "ns"

end Duration

end NodeFleet
