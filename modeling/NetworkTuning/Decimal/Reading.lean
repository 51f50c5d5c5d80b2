import NetworkTuning.Decimal.Natural

/-!
# Reading a double

Decimal text is read as the double nearest to the number it denotes. A sign may stand in front; the
names of the infinities and of NaN are read in any case; digits are needed on one side of the point.
-/

namespace NetworkTuning.Decimal

/-- Positive infinity. -/
def infinity : Float := 1.0 / 0.0

/-- Not a number. -/
def notANumber : Float := 0.0 / 0.0

/-- The double nearest to `mantissa * 10 ^ exponent`. Outside the range of doubles the power is not
computed. -/
def nearest (mantissa : Nat) (exponent : Int) : Float :=
  let size := ((digits mantissa).length : Int) + exponent
  if mantissa = 0 then 0.0
  else if 400 < size then infinity
  else if size < -400 then 0.0
  else Float.ofScientific mantissa (exponent < 0) exponent.natAbs

/-- The exponent part of a number: nothing, or `e`, an optional sign, and digits to the end. -/
def exponentPart? (text : List Char) : Option Int :=
  match text with
  | [] => some 0
  | c :: rest =>
    if c = 'e' ∨ c = 'E' then
      let (negative, body) := match rest with
        | '-' :: r => (true, r)
        | '+' :: r => (false, r)
        | r => (false, r)
      if body.isEmpty then none
      else (digitsValue? 0 body).map fun n => if negative then -(n : Int) else n
    else none

/-- An unsigned number: digits, an optional point with more digits, an optional exponent. -/
def unsignedFloat? (text : List Char) : Option Float :=
  let whole := text.takeWhile Char.isDigit
  let afterWhole := text.dropWhile Char.isDigit
  let (fraction, rest) := match afterWhole with
    | '.' :: r => (r.takeWhile Char.isDigit, r.dropWhile Char.isDigit)
    | r => ([], r)
  if whole.isEmpty ∧ fraction.isEmpty then none
  else do
    let exponent ← exponentPart? rest
    let mantissa ← digitsValue? 0 (whole ++ fraction)
    some (nearest mantissa (exponent - fraction.length))

/-- A double in decimal text. -/
def float? (text : List Char) : Option Float :=
  let (negative, body) := match text with
    | '-' :: r => (true, r)
    | '+' :: r => (false, r)
    | r => (false, r)
  let name := String.ofList (body.map Char.toLower)
  let size :=
    if name = "inf" ∨ name = "infinity" then some infinity
    else if name = "nan" then some notANumber
    else unsignedFloat? body
  size.map fun x => if negative then -x else x

end NetworkTuning.Decimal
