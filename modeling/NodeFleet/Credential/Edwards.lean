import NodeFleet.Credential.Octets
import NodeFleet.Credential.Residue
import NodeFleet.Credential.Sha512

/-!
# The twisted curve for signatures

The curve consists of the solutions of `y² - x² = 1 + d x² y²` among the residues of a prime.  One
rule adds any two points.  Points are kept as fractions with one denominator, so that only the
result needs a division.

A secret of 32 bytes belongs to the point that is `multiplier` times the base.
-/

namespace NodeFleet.Edwards

open Residue

def prime : Nat := 2 ^ 255 - 19

/-- The factor in the equation. -/
def factor : Nat :=
  37095705934669439343138083508754565189542113879843219016388785533085940283555

/-- A point: the numerators of its coordinates and their denominator. -/
structure Point where
  /-- The numerator of the first coordinate. -/
  x : Nat
  /-- The numerator of the second coordinate. -/
  y : Nat
  /-- The denominator. -/
  z : Nat

/-- The zero of addition. -/
def Point.zero : Point := { x := 0, y := 1, z := 1 }

def Point.base : Point :=
  { x := 15112221349535400772501151409588531511454012693041857206046113283949847762202
    y := 46316835694926478169428394003475163141307993866256225615783033603165251855960
    z := 1 }

/-- The sum of points. -/
def Point.add (a b : Point) : Point :=
  let z := times prime a.z b.z
  let square := times prime z z
  let x := times prime a.x b.x
  let y := times prime a.y b.y
  let mixed := times prime (times prime factor x) y
  let less := minus prime square mixed
  let more := (square + mixed) % prime
  let cross := minus prime (times prime (a.x + a.y) (b.x + b.y)) (x + y)
  { x := times prime (times prime z less) cross
    y := times prime (times prime z more) (x + y)
    z := times prime less more }

/-- The bytes of a point: the second coordinate, the least significant byte first, with a bit of the
first coordinate above it. -/
def Point.encode (a : Point) : List Nat :=
  let z := inverse prime a.z
  let x := times prime a.x z
  let y := times prime a.y z
  (Octets.ofNat 32 (y + 2 ^ 255 * (x % 2))).reverse

/-- The number of times that the base is taken for a secret: of the first half of its digest, as a
number with the least significant byte first, the three lowest bits are cleared and the highest
of 255 bits is set. -/
def multiplier (secret : List Nat) : Nat :=
  let n := Octets.number ((Sha512.digest secret).take 32).reverse
  n / 8 * 8 % 2 ^ 254 + 2 ^ 254

/-- The bytes of the public point of a secret. -/
def publicBytes (secret : List Nat) : List Nat :=
  (repeated Point.add .zero (multiplier secret) .base).encode

end NodeFleet.Edwards
