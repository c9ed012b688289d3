import NodeFleet.Credential.Octets
import NodeFleet.Credential.Residue

/-!
# Curves for signatures

A curve consists of the solutions of `y² = x³ - 3x + c` among the residues of a prime, and a point
at infinity.  Points are added by the line through them: it meets the curve in a third point, and
the sum lies across from that.  The constant `c` plays no part in this.

A secret number belongs to the public point that is so many times the curve's base.
-/

namespace NodeFleet

open Residue

inductive Curve.Point where
  /-- The point at infinity, which is the zero of addition. -/
  | zero
  /-- A solution. -/
  | finite (x y : Nat)
  deriving DecidableEq

/-- A curve with a base. -/
structure Curve where
  /-- The identifier of the curve, as an element. -/
  identifier : List Nat
  /-- The number of bytes of a residue. -/
  size : Nat
  prime : Nat
  base : Nat × Nat
  /-- How many times the base is zero. -/
  order : Nat

namespace Curve

/-- The curve over a prime of 256 bits. -/
def medium : Curve :=
  { identifier := [0x06, 0x08, 0x2A, 0x86, 0x48, 0xCE, 0x3D, 0x03, 0x01, 0x07]
    size := 32
    prime := 2 ^ 256 - 2 ^ 224 + 2 ^ 192 + 2 ^ 96 - 1
    base := (0x6B17D1F2E12C4247F8BCE6E563A440F277037D812DEB33A0F4A13945D898C296,
      0x4FE342E2FE1A7F9B8EE7EB4A7C0F9E162BCE33576B315ECECBB6406837BF51F5)
    order := 0xFFFFFFFF00000000FFFFFFFFFFFFFFFFBCE6FAADA7179E84F3B9CAC2FC632551 }

/-- The curve over a prime of 384 bits. -/
def large : Curve :=
  { identifier := [0x06, 0x05, 0x2B, 0x81, 0x04, 0x00, 0x22]
    size := 48
    prime := 2 ^ 384 - 2 ^ 128 - 2 ^ 96 + 2 ^ 32 - 1
    base := (0xAA87CA22BE8B05378EB1C71EF320AD746E1D3B628BA79B98 <<< 192 |||
        0x59F741E082542A385502F25DBF55296C3A545E3872760AB7,
      0x3617DE4A96262C6F5D9E98BF9292DC29F8F41DBD289A147C <<< 192 |||
        0xE9DA3113B5F0B8C00A60B1CE1D7E819D7A431D7C90EA0E5F)
    order := 0xFFFFFFFFFFFFFFFFFFFFFFFFFFFFFFFFFFFFFFFFFFFFFFFF <<< 192 |||
      0xC7634D81F4372DDF581A0DB248B0A77AECEC196ACCC52973 }

/-- The curves of keys. -/
def all : List Curve := [medium, large]

/-- The slope of the line through two points that are not across from each other; of the tangent if
they are the same. -/
def slope (c : Curve) (x₁ y₁ x₂ y₂ : Nat) : Nat :=
  let p := c.prime
  if x₁ = x₂ then times p (minus p (3 * x₁ * x₁) 3) (inverse p (2 * y₁))
  else times p (minus p y₁ y₂) (inverse p (minus p x₁ x₂))

/-- The sum of points. -/
def add (c : Curve) : Point → Point → Point
  | .zero, b => b
  | a, .zero => a
  | .finite x₁ y₁, .finite x₂ y₂ =>
      let p := c.prime
      if x₁ = x₂ ∧ (y₁ + y₂) % p = 0 then .zero
      else
        let slope := c.slope x₁ y₁ x₂ y₂
        let x := minus p (slope * slope) (x₁ + x₂)
        .finite x (minus p (slope * minus p x₁ x) y₁)

/-- The public point of a secret number. -/
def publicPoint (c : Curve) (secret : Nat) : Point :=
  repeated c.add .zero secret (.finite c.base.1 c.base.2)

/-- The bytes of a point: a mark and both coordinates. -/
def encode (c : Curve) : Point → List Nat
  | .zero => [0x00]
  | .finite x y => 0x04 :: Octets.ofNat c.size x ++ Octets.ofNat c.size y

/-- Whether bytes are a secret number of a curve and other bytes its public point. -/
def isPair (c : Curve) (secret shown : List Nat) : Bool :=
  let n := Octets.number secret
  secret.length = c.size && 0 < n && n < c.order && shown = c.encode (c.publicPoint n)

end Curve

end NodeFleet
