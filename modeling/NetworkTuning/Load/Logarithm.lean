import NetworkTuning.Decimal.Binary
import NetworkTuning.Decimal.Reading

/-!
# Logarithms and powers of ten

The platform computes logarithms; only their last bits depend on the platform. Bounds of a logarithm
are known exactly, for the common one from the decade of the argument, so the result is held between
them, and its sign and its size never rest on the platform's routine.
-/

namespace NetworkTuning

/-- The number of times a natural number can be divided by ten before it drops to zero, less one. -/
def decadeOfNat : Nat → Nat → Nat
  | 0, _ => 0
  | fuel + 1, n => if n < 10 then 0 else decadeOfNat fuel (n / 10) + 1

/-- The least `k` for which `10 ^ k * numerator` reaches `denominator`. -/
def decadeBelowOne : Nat → Nat → Nat → Nat
  | 0, _, _ => 0
  | fuel + 1, numerator, denominator =>
    if denominator ≤ numerator then 0 else decadeBelowOne fuel (10 * numerator) denominator + 1

/-- The whole number `k` with `10 ^ k ≤ x < 10 ^ (k + 1)`, for a positive finite double. -/
def decade? (x : Float) : Option Int :=
  match Decimal.Binary.ofFloat? x with
  | none => none
  | some b =>
    if b.negative ∨ b.mantissa = 0 then none
    else
      let (numerator, denominator) := b.ratio 0
      if denominator ≤ numerator then some (decadeOfNat 400 (numerator / denominator) : Nat)
      else some (Int.negOfNat (decadeBelowOne 400 numerator denominator))

/-- The value between two bounds that is nearest to a double. -/
def heldBetween (least most x : Float) : Float :=
  if least ≤ x then if x ≤ most then x else most else least

/-- What every logarithm is of a double that is not a positive real. -/
def logarithmOutside (x : Float) : Float :=
  if x == 0.0 then -Decimal.infinity else if 0.0 < x then x else Decimal.notANumber

/-- The common logarithm, held within the decade of its argument. Below one it is at most
`(x - 1) / 2.5`, since the natural logarithm of ten is less than that divisor. -/
def log10 (x : Float) : Float :=
  match decade? x with
  | none => logarithmOutside x
  | some k =>
    let most := if k = -1 then (x - 1.0) / 2.5 else Float.ofInt (k + 1)
    heldBetween (Float.ofInt k) most (Float.log10 x)

/-- The natural logarithm, held below `x - 1`, and above zero or the logarithm of the least positive
double. -/
def naturalLog (x : Float) : Float :=
  match decade? x with
  | none => logarithmOutside x
  | some k => heldBetween (if k < 0 then -745.0 else 0.0) (x - 1.0) x.log

/-- Raises `base` to a power by repeated squaring, onto the product so far. -/
def powerOnto (product base : Float) : Nat → Nat → Float
  | 0, _ => product
  | fuel + 1, n =>
    let product := if n % 2 = 1 then product * base else product
    if n / 2 = 0 then product else powerOnto product (base * base) fuel (n / 2)

/-- A whole power of ten; a negative one is the reciprocal of the positive one. -/
def powerOfTen (exponent : Int) : Float :=
  let size := powerOnto 1.0 10.0 64 exponent.natAbs
  if exponent < 0 then 1.0 / size else size

end NetworkTuning
