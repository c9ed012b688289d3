import NodeFleet.Power

/-!
# Repeated operations and residues

`repeated` combines a value with itself many times in few steps: the halves of the count are
combined first.  With multiplication it gives powers, with the addition of points on a curve their
multiples.
-/

namespace NodeFleet

/-- The value `x` combined with itself `n` times. -/
def repeated {α : Type} (combine : α → α → α) (unit : α) (n : Nat) (x : α) : α :=
  if n = 0 then unit
  else
    let half := repeated combine unit (n / 2) (combine x x)
    if n % 2 = 1 then combine x half else half
termination_by n

namespace Residue

/-- The product of residues. -/
def times (m a b : Nat) : Nat :=
  a * b % m

/-- The difference of residues. -/
def minus (m a b : Nat) : Nat :=
  (a + (m - b % m)) % m

def power (m x n : Nat) : Nat :=
  repeated (times m) (1 % m) n x

/-- The inverse of a residue of a prime.  The power `p - 1` of a residue is one unless the residue
is zero, so the power before that times the residue is one. -/
def inverse (p x : Nat) : Nat :=
  power p x (p - 2)

end Residue

end NodeFleet
