import NodeFleet.Power

/-!
# Numbers as bytes

A natural number is written in bytes with the most significant first.  `Octets.ofNat` writes it in
a fixed number of bytes, and `Octets.number` reads it.
-/

namespace NodeFleet.Octets

/-- The number of bytes, the most significant first. -/
def number (bytes : List Nat) : Nat :=
  bytes.foldl (fun n byte => 256 * n + byte) 0

/-- The last `size` bytes of a number, the most significant first. -/
def ofNat : Nat → Nat → List Nat
  | 0, _ => []
  | size + 1, n => ofNat size (n / 256) ++ [n % 256]

end NodeFleet.Octets
