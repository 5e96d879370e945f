/-!
# Ranges of characters

A class of characters is a list of closed ranges of their numbers.
-/

namespace Mailroom.Quoted

/-- Closed ranges of numbers, each with its lowest and its highest. -/
abbrev Ranges := List (Nat × Nat)

namespace Ranges

/-- The character's number is in one of the ranges. -/
def contains (rs : Ranges) (c : Char) : Bool :=
  rs.any fun (low, high) => low ≤ c.toNat && c.toNat ≤ high

end Ranges

end Mailroom.Quoted
