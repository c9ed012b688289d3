/-!
# Blocks of characters

A class of characters is given by the blocks of code points that it consists of, in order.
-/

namespace NodeFleet.Text

/-- The first and the last code point of each block of a class. -/
abbrev Blocks := List (Nat × Nat)

/-- Whether a character lies in one of some blocks. -/
def Blocks.contains (blocks : Blocks) (c : Char) : Bool :=
  blocks.any fun block => block.1 ≤ c.toNat && c.toNat ≤ block.2

end NodeFleet.Text
