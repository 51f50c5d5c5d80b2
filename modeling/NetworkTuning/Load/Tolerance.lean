import NetworkTuning.Load.Logarithm

/-!
# Precision and tolerance of a score

The relative precision of a score is a power of ten that falls with the number of its digits. The
tolerance is the score times its precision, passed through the configured approximation, and is the
largest distance at which two scores still match.
-/

namespace NetworkTuning

/-- The approximations through which the product of score and precision may be passed. -/
inductive Approximation where
  | identity
  | squareRoot
  | square
  | commonLogarithm
  | naturalLogarithm
  deriving Repr, DecidableEq, Inhabited

namespace Approximation

/-- The approximations in the order of the numbers that select them, which start at zero. -/
def all : List Approximation := [identity, squareRoot, square, commonLogarithm, naturalLogarithm]

/-- The approximation that a number selects. -/
def ofSelector? (n : Int) : Option Approximation := if n < 0 then none else all[n.toNat]?

/-- The name of an approximation. -/
def name : Approximation → String
  | identity => "identity"
  | squareRoot => "sqrt"
  | square => "square"
  | commonLogarithm => "log10"
  | naturalLogarithm => "ln"

/-- The function itself. -/
def apply : Approximation → Float → Float
  | identity, x => x
  | squareRoot, x => x.sqrt
  | square, x => x * x
  | commonLogarithm, x => log10 x
  | naturalLogarithm, x => naturalLog x

end Approximation

/-- The number of digits before the point; what is below one, or no finite number, has one. -/
def wholeDigits (x : Float) : Nat :=
  if !x.isFinite || x < 1.0 then 1 else (log10 x).toUInt32.toNat + 1

/-- A double cut to a whole number and held within 32 bits; what is no number counts as zero. -/
def cut (x : Float) : Int32 :=
  Int32.ofInt <|
    if x < 0.0 then -(min 0x80000000 (-x).toUInt32.toNat : Nat)
    else (min 0x7FFFFFFF x.toUInt32.toNat : Nat)

/-- The relative precision of a score: ten to the minus `digits * accuracy`, cut to a whole number.
-/
def precision (score accuracy : Float) : Float :=
  let zeros := cut ((wholeDigits score).toUInt32.toFloat * accuracy)
  powerOfTen (-zeros).toInt

/-- The largest distance at which a score still matches. -/
def tolerance (score precision : Float) (f : Approximation) : Float := f.apply (score * precision)

end NetworkTuning
