/-!
# Ranges of code points

A property of characters is given by a list of inclusive ranges of code points.
-/

namespace Storyline.Text

/-- The first and the last code point of a range. -/
abbrev CodeRange := Nat × Nat

def CodeRange.contains (r : CodeRange) (c : Char) : Bool :=
  r.1 ≤ c.toNat && c.toNat ≤ r.2

def inRanges (ranges : List CodeRange) (c : Char) : Bool :=
  ranges.any (·.contains c)

end Storyline.Text
