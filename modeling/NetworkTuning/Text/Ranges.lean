/-!
# Ranges of characters

A property of characters is given by the ranges of code points that have it.
-/

namespace NetworkTuning.Text

/-- Whether a character lies in one of some ranges, each given by its first and last code point. -/
def within (ranges : List (Nat × Nat)) (c : Char) : Bool :=
  ranges.any fun range => range.1 ≤ c.toNat && c.toNat ≤ range.2

end NetworkTuning.Text
