/-!
# Ranges of code points

A property of characters is a sorted list of inclusive ranges of code points.
-/

namespace Stencil.Text

/-- Inclusive ranges of code points, in ascending order. -/
abbrev Ranges := List (Nat × Nat)

/-- Tells whether a code point lies in one of the ranges. -/
def Ranges.contains (rs : Ranges) (n : Nat) : Bool :=
  rs.any fun r => r.1 ≤ n && n ≤ r.2

end Stencil.Text
