import NetworkTuning.Decimal.Binary
import NetworkTuning.Decimal.Natural

/-!
# Shortest decimal text of a double

Among the decimals that read back as a given double the shortest is chosen, and of two equally short
ones the nearer; where two are equally near a `Tie` decides. The reals that read back as the double
form an interval around it, whose ends count when the mantissa is even; a grid of `n` digits meets
that interval exactly if one of the two grid points beside the double lies in it.
-/

namespace NetworkTuning.Decimal

/-- The number `digits * 10 ^ exponent`. -/
structure Scaled where
  digits : Nat
  exponent : Int
  deriving Repr, DecidableEq

/-- Which of two grid points equally near to a double is taken. -/
inductive Tie where
  | larger
  | even
  deriving Repr, DecidableEq

/-- The one of the neighbours `below` and `below + 1` that a tie falls to. -/
def Tie.pick (below : Nat) : Tie → Nat
  | larger => below + 1
  | even => below + below % 2

/-- Compares `a * 2 ^ s` with `c * 10 ^ q` by clearing both powers. -/
def comparePowers (a : Nat) (s : Int) (c : Nat) (q : Int) : Ordering :=
  compare (a * Nat.pow 2 s.toNat * Nat.pow 10 (-q).toNat)
    (c * Nat.pow 10 q.toNat * Nat.pow 2 (-s).toNat)

/-- The interval of reals that read back as `mantissa * 2 ^ exponent`, in quarters of the last bit.
Below a power of two the doubles lie twice as close, so the lower half is narrower there. -/
structure Basin where
  lower : Nat
  value : Nat
  upper : Nat
  exponent : Int
  closed : Bool

/-- The interval around a positive double. -/
def Binary.basin (b : Binary) : Basin where
  lower := 4 * b.mantissa - (if b.mantissa = leadingBit ∧ b.exponent > -1074 then 1 else 2)
  value := 4 * b.mantissa
  upper := 4 * b.mantissa + 2
  exponent := b.exponent - 2
  closed := b.mantissa % 2 = 0

/-- Whether `c * 10 ^ q` reads back as the double the interval surrounds. -/
def Basin.holds (i : Basin) (c : Nat) (q : Int) : Bool :=
  match comparePowers i.lower i.exponent c q, comparePowers i.upper i.exponent c q with
  | .lt, .gt => true
  | .eq, _ => i.closed
  | _, .eq => i.closed
  | _, _ => false

/-- The largest grid point `c * 10 ^ q` that is at most the double. -/
def Basin.floorOn (i : Basin) (q : Int) : Nat :=
  (i.value * Nat.pow 2 i.exponent.toNat * Nat.pow 10 (-q).toNat) /
    (Nat.pow 10 q.toNat * Nat.pow 2 (-i.exponent).toNat)

/-- A point of the grid `10 ^ q` that reads back as the double, the nearer one if both do. -/
def Basin.hit? (i : Basin) (tie : Tie) (q : Int) : Option Scaled :=
  let below := i.floorOn q
  match i.holds below q, i.holds (below + 1) q with
  | true, false => some ⟨below, q⟩
  | false, true => some ⟨below + 1, q⟩
  | false, false => none
  | true, true =>
    match comparePowers (2 * i.value) i.exponent (2 * below + 1) q with
    | .lt => some ⟨below, q⟩
    | .eq => some ⟨tie.pick below, q⟩
    | .gt => some ⟨below + 1, q⟩

/-- A power of ten at or just below the double. -/
def Basin.decade (i : Basin) : Int :=
  let whole := i.floorOn 0
  if whole = 0 then
    let inverse := Nat.pow 2 (-i.exponent).toNat / (i.value * Nat.pow 2 i.exponent.toNat)
    Int.negOfNat (digits inverse).length
  else ((digits whole).length : Int) - 1

/-- Tries grids of one digit more each time; seventeen digits always suffice. -/
def Basin.search (i : Basin) (tie : Tie) (decade : Int) : Nat → Nat → Scaled
  | 0, count => ⟨i.floorOn (decade - count), decade - count⟩
  | fuel + 1, count =>
    match i.hit? tie (decade - count) with
    | some found => found
    | none => i.search tie decade fuel (count + 1)

/-- The shortest decimal that reads back as a positive double. -/
def Binary.shortest (b : Binary) (tie : Tie) : Scaled :=
  let i := b.basin
  i.search tie i.decade 18 0

/-- Digits without the zeros at their end, which move into the exponent. -/
def Scaled.significant (s : Scaled) : List Char × Int :=
  let reversed := (Decimal.digits s.digits).reverse
  let kept := reversed.dropWhile (· = '0')
  (kept.reverse, s.exponent + ((reversed.length : Int) - kept.length))

/-- Positional text of `ds * 10 ^ exponent`, without a point when the number is whole. -/
def positional (ds : List Char) (exponent : Int) : List Char :=
  if 0 ≤ exponent then ds ++ List.replicate exponent.toNat '0'
  else
    let places := (-exponent).toNat
    if places < ds.length then
      ds.take (ds.length - places) ++ '.' :: ds.drop (ds.length - places)
    else '0' :: '.' :: (List.replicate (places - ds.length) '0' ++ ds)

/-- Sign of a double in front of the text of its size. -/
def signed (negative : Bool) (text : List Char) : String :=
  String.ofList (if negative then '-' :: text else text)

/-- The text of a double that is not finite, if it is such. -/
def special? (x : Float) : Option String :=
  if x.isNaN then some "NaN"
  else if x.isInf then some (if x < 0 then "-inf" else "inf")
  else none

/-- A double in the fewest digits that read back as it, never with an exponent; a tie goes up. -/
def plain (x : Float) : String :=
  match Binary.ofFloat? x with
  | none => (special? x).getD "NaN"
  | some b =>
    if b.mantissa = 0 then signed b.negative ['0']
    else
      let (ds, e) := (b.shortest .larger).significant
      signed b.negative (positional ds e)

/-- A finite double for a data document: a whole number keeps one zero after the point, and sizes
from `10 ^ 16` on or below `10 ^ -5` are written with an exponent, which has a sign always. A tie
goes to the even digit. -/
def scientific (x : Float) : String :=
  match Binary.ofFloat? x with
  | none => "null"
  | some b =>
    if b.mantissa = 0 then signed b.negative ['0', '.', '0']
    else
      let (ds, e) := (b.shortest .even).significant
      let point := (ds.length : Int) + e
      if -5 < point ∧ point ≤ 16 then
        let text := positional ds e
        signed b.negative (if 0 ≤ e then text ++ ['.', '0'] else text)
      else
        let lead := ds.take 1
        let tail := ds.drop 1
        let body := if tail.isEmpty then lead else lead ++ '.' :: tail
        let sign := if point ≤ 0 then '-' else '+'
        signed b.negative (body ++ 'e' :: sign :: digits (point - 1).natAbs)

end NetworkTuning.Decimal
