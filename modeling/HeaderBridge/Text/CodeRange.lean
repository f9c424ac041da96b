/-!
# Ranges of code points

A character class beyond ASCII is a table of ranges, each written as its first and its
last code point.
-/

namespace HeaderBridge

/-- The code points from the first to the second, both included. -/
abbrev CodeRange := Nat × Nat

/-- The code point of the character lies in one of the ranges. -/
def inRanges (table : List CodeRange) (c : Char) : Bool :=
  table.any fun r => r.1 ≤ c.toNat && c.toNat ≤ r.2

end HeaderBridge
