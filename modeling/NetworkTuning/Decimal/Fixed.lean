import NetworkTuning.Decimal.Shortest

/-!
# A fixed number of decimal places

The exact value of the double is rounded to the last place asked for, a tie to the even digit.
-/

namespace NetworkTuning.Decimal

/-- The text of `count / 10 ^ places`, with all its places written. -/
def fixedDigits (places count : Nat) : List Char :=
  let ds := digits count
  let padded := List.replicate (places + 1 - ds.length) '0' ++ ds
  if places = 0 then padded
  else padded.take (padded.length - places) ++ '.' :: padded.drop (padded.length - places)

/-- How many units of the last place a double is nearest to, its sign left out. -/
def Binary.unitsOf (b : Binary) (places : Nat) : Nat :=
  let (numerator, denominator) := b.ratio places
  roundTiesToEven numerator denominator

/-- A double with `places` decimal places. -/
def fixed (places : Nat) (x : Float) : String :=
  match Binary.ofFloat? x with
  | none => (special? x).getD "NaN"
  | some b => signed b.negative (fixedDigits places (b.unitsOf places))

end NetworkTuning.Decimal
