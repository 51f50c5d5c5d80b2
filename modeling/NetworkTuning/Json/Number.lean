import NetworkTuning.Decimal.Natural
import NetworkTuning.Decimal.Reading

/-!
# Numbers of a data document

A number without point and exponent is a whole number if it fits 64 bits. Any other number is read
as its leading digits, as many as fit 64 bits, scaled once by a power of ten; the last bit may
differ from that of the nearest double. A number beyond the doubles is well written and too large.
-/

namespace NetworkTuning.Json

/-- A number as it is read. -/
inductive Number where
  | whole (n : Int)
  | real (x : Float)
  | tooLarge

/-- Digits taken in while they fit 64 bits: the value, how many were taken, and what follows. -/
def takeDigits (acc taken : Nat) : List Char → Nat × Nat × List Char
  | [] => (acc, taken, [])
  | c :: rest =>
    match Decimal.digitValue? c with
    | none => (acc, taken, c :: rest)
    | some d =>
      if 10 * acc + d < UInt64.size then takeDigits (10 * acc + d) (taken + 1) rest
      else (acc, taken, c :: rest)

/-- Divides by `10 ^ 308` as long as the exponent lies below what one power of ten can undo. -/
def scaleDown : Nat → Float → Int → Float
  | 0, x, _ => x
  | fuel + 1, x, exponent =>
    if -308 ≤ exponent then x / Decimal.nearest 1 (-exponent)
    else if x == 0.0 then x
    else scaleDown fuel (x / 1e308) (exponent + 308)

/-- The digits scaled by a power of ten. -/
def scale (significand : Nat) (exponent : Int) : Number :=
  let x := significand.toUInt64.toFloat
  if exponent < 0 then .real (scaleDown (exponent.natAbs / 308 + 1) x exponent)
  else if exponent ≤ 308 then
    let y := x * Decimal.nearest 1 exponent
    if y.isInf then .tooLarge else .real y
  else if significand = 0 then .real x
  else .tooLarge

/-- A power that follows the digits: an optional sign and at least one digit. With a power of ten
beyond 32 bits the number is too large, or zero. -/
def exponent? (significand : Nat) (start : Int) (cs : List Char) : Option (Number × List Char) :=
  let (negative, body) := match cs with
    | '-' :: r => (true, r)
    | '+' :: r => (false, r)
    | r => (false, r)
  let ds := body.takeWhile Char.isDigit
  let rest := body.dropWhile Char.isDigit
  if ds.isEmpty then none
  else
    (Decimal.digitsValue? 0 ds).map fun e =>
      if 0x80000000 ≤ e then (if significand ≠ 0 ∧ !negative then .tooLarge else .real 0.0, rest)
      else (scale significand (if negative then start - (e : Int) else start + (e : Int)), rest)

/-- What follows the digits before and after the point: a power, or nothing. -/
def finish? (significand : Nat) (exponent : Int) : List Char → Option (Number × List Char)
  | 'e' :: rest => exponent? significand exponent rest
  | 'E' :: rest => exponent? significand exponent rest
  | rest => some (scale significand exponent, rest)

/-- The digits after the point, at least one; those that no longer fit are passed over. -/
def fraction? (significand : Nat) (exponent : Int) (cs : List Char) :
    Option (Number × List Char) :=
  let (value, taken, rest) := takeDigits significand 0 cs
  if taken = 0 ∧ (rest.head?.map Char.isDigit) ≠ some true then none
  else finish? value (exponent - taken) (rest.dropWhile Char.isDigit)

/-- The number at the start of a text without its sign; a leading zero stands alone. -/
def unsigned? (cs : List Char) : Option (Number × List Char) :=
  let (value, taken, rest) :=
    match cs with
    | '0' :: r => (0, 1, r)
    | _ => takeDigits 0 0 cs
  if taken = 0 then none
  else
    let surplus := rest.takeWhile Char.isDigit
    let after := rest.dropWhile Char.isDigit
    if cs.head? = some '0' ∧ !surplus.isEmpty then none
    else
      match after with
      | '.' :: r => fraction? value surplus.length r
      | _ =>
        if surplus.isEmpty ∧ (after.head? ≠ some 'e' ∧ after.head? ≠ some 'E') then
          some (.whole value, after)
        else finish? value surplus.length after

/-- The negative of a number. A negative whole number that does not fit, and zero, turn real. -/
def Number.negate : Number → Number
  | whole n => if 0 < n ∧ n ≤ Decimal.signed64Size then whole (-n) else real (-(n.toNat.toUInt64.toFloat))
  | real x => real (-x)
  | tooLarge => tooLarge

/-- The number at the start of a text. -/
def number? (cs : List Char) : Option (Number × List Char) :=
  match cs with
  | '-' :: rest => (unsigned? rest).map fun (n, r) => (n.negate, r)
  | _ => unsigned? cs

end NetworkTuning.Json
