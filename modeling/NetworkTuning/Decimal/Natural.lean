/-!
# Whole numbers in decimal

A whole number is written with its digits and read back with an optional plus sign. The reader takes
the range of the destination as a bound and refuses a number outside it, so nothing ever wraps.
-/

namespace NetworkTuning.Decimal

/-- The decimal digits of a number, the most significant first. -/
def digits (n : Nat) : List Char := Nat.toDigits 10 n

/-- The value of an ASCII digit. -/
def digitValue? (c : Char) : Option Nat :=
  if c.isDigit then some (c.toNat - '0'.toNat) else none

/-- The number that a run of digits denotes, continued from `acc`; any other character refuses. -/
def digitsValue? (acc : Nat) : List Char → Option Nat
  | [] => some acc
  | c :: rest => (digitValue? c).bind fun d => digitsValue? (10 * acc + d) rest

/-- A whole number below `bound`: at least one ASCII digit, a plus sign allowed in front. -/
def natural? (bound : Nat) (text : List Char) : Option Nat :=
  let body := match text with
    | '+' :: rest => rest
    | _ => text
  if body.isEmpty then none
  else (digitsValue? 0 body).filter (· < bound)

/-- How many whole numbers of the signed 64-bit range are negative. -/
def signed64Size : Nat := 0x8000000000000000

/-- A whole number of the signed 64-bit range: one sign of either kind allowed in front. -/
def signed64? (text : List Char) : Option Int :=
  match text with
  | '-' :: rest =>
    if rest.head? = some '+' then none
    else (natural? (signed64Size + 1) rest).map fun n => -(n : Int)
  | _ => (natural? signed64Size text).map fun n => (n : Int)

/-- The words of the unsigned ranges. -/
def word64? (text : List Char) : Option UInt64 := (natural? UInt64.size text).map Nat.toUInt64

@[inherit_doc word64?]
def word32? (text : List Char) : Option UInt32 := (natural? UInt32.size text).map Nat.toUInt32

@[inherit_doc word64?]
def word16? (text : List Char) : Option UInt16 := (natural? UInt16.size text).map Nat.toUInt16

end NetworkTuning.Decimal
