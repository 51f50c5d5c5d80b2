/-!
# The exact value of a double

A finite double is an integer times a power of two. The decimal printers and the conversions to
whole units work on that integer, so every rounding they make is stated once, on natural numbers.
-/

namespace NetworkTuning.Decimal

/-- The exact value `mantissa * 2 ^ exponent` of a finite double, negated when `negative`. -/
structure Binary where
  negative : Bool
  mantissa : Nat
  exponent : Int
  deriving Repr, DecidableEq

/-- The exponent field of a double, eleven bits. -/
def exponentField (x : Float) : Nat := (x.toBits >>> 52).toNat % 2048

/-- The leading bit of a mantissa, above the 52 bits that are stored. -/
def leadingBit : Nat := 0x10000000000000

/-- The fraction field of a double, 52 bits. -/
def fractionField (x : Float) : Nat := x.toBits.toNat % leadingBit

/-- The sign bit of a double. -/
def signBit (x : Float) : Bool := 0x8000000000000000 ≤ x.toBits.toNat

/-- The value of a double; infinities and NaN have none. -/
def Binary.ofFloat? (x : Float) : Option Binary :=
  let field := exponentField x
  let fraction := fractionField x
  if field = 2047 then none
  else if field = 0 then some ⟨signBit x, fraction, -1074⟩
  else some ⟨signBit x, leadingBit + fraction, (field : Int) - 1075⟩

/-- The two halves `(numerator, denominator)` of `mantissa * 2 ^ exponent * 10 ^ places`. -/
def Binary.ratio (b : Binary) (places : Nat) : Nat × Nat :=
  (b.mantissa * Nat.pow 2 b.exponent.toNat * Nat.pow 10 places, Nat.pow 2 (-b.exponent).toNat)

/-- The quotient rounded to the nearest integer, a tie to the even one. -/
def roundTiesToEven (numerator denominator : Nat) : Nat :=
  let quotient := numerator / denominator
  let twice := 2 * (numerator % denominator)
  if twice < denominator then quotient
  else if twice = denominator then quotient + quotient % 2
  else quotient + 1

/-- The quotient rounded to the nearest integer, a tie to the larger one. -/
def roundTiesUp (numerator denominator : Nat) : Nat :=
  (2 * numerator + denominator) / (2 * denominator)

end NetworkTuning.Decimal
