/-!
# Names in plain letters

A name with characters outside ASCII is written with plain letters and digits: first its ASCII
characters, then, after a hyphen, where the others belong among them. Each of the others is inserted
in ascending order of code points; a number of variable length says how many places lie between one
insertion and the next, counted over all code points and all places.
-/

namespace NetworkTuning.Web.Punycode

/-- The value of a digit: letters first, then digits. -/
def digitValue? (c : Char) : Option Nat :=
  if 'a' ≤ c ∧ c ≤ 'z' then some (c.toNat - 'a'.toNat)
  else if 'A' ≤ c ∧ c ≤ 'Z' then some (c.toNat - 'A'.toNat)
  else if '0' ≤ c ∧ c ≤ '9' then some (c.toNat - '0'.toNat + 26)
  else none

/-- The digit of a value below 36. -/
def digit (value : Nat) : Char :=
  if value < 26 then Char.ofNat ('a'.toNat + value) else Char.ofNat ('0'.toNat + (value - 26))

/-- The least value of a digit after which a number goes on, where digits weigh `position`. -/
def threshold (position bias : Nat) : Nat := max 1 (min 26 (position - bias))

theorem one_le_threshold (position bias : Nat) : 1 ≤ threshold position bias := by
  unfold threshold
  omega

/-- Divides by 35 until a bound is kept, and adds 36 each time. -/
def settle (delta position : Nat) : Nat × Nat :=
  if 455 < delta then settle (delta / 35) (position + 36) else (delta, position)
termination_by delta
decreasing_by omega

/-- The bias for the number after one of size `delta`, when `count` characters are in place. -/
def adapt (delta count : Nat) (first : Bool) : Nat :=
  let delta := if first then delta / 700 else delta / 2
  let (delta, position) := settle (delta + delta / count) 0
  position + 36 * delta / (delta + 38)

/-- The digits of a number. -/
def digits (bias position q : Nat) : List Char :=
  let t := threshold position bias
  if q < t then [digit q]
  else digit (t + (q - t) % (36 - t)) :: digits bias (position + 36) ((q - t) / (36 - t))
termination_by q
decreasing_by
  have h : 1 ≤ threshold position bias := one_le_threshold position bias
  have := Nat.div_le_self (q - threshold position bias) (36 - threshold position bias)
  omega

/-- A name on its way into plain letters: the digits so far in reverse, how many characters are in
place, how many places have passed since the last insertion, and the bias. -/
structure Encoder where
  output : List Char
  placed : Nat
  delta : Nat := 0
  bias : Nat := 72

/-- Goes past a character of a name while those with the code point `code` are inserted. -/
def Encoder.pass (basic code : Nat) (e : Encoder) (c : Char) : Encoder :=
  if c.toNat < code then { e with delta := e.delta + 1 }
  else if c.toNat = code then
    { output := (digits e.bias 36 e.delta).reverse ++ e.output
      placed := e.placed + 1
      delta := 0
      bias := adapt e.delta (e.placed + 1) (e.placed = basic) }
  else e

/-- Inserts the characters of code points in ascending order, the last one before being `previous`.
-/
def Encoder.insert (name : List Char) (basic : Nat) :
    Nat → List Nat → Encoder → Encoder
  | _, [], e => e
  | previous, code :: codes, e =>
    let e := { e with delta := e.delta + (code - previous) * (e.placed + 1) }
    let e := name.foldl (Encoder.pass basic code) e
    insert name basic (code + 1) codes { e with delta := e.delta + 1 }

/-- A name in plain letters. -/
def encode (name : List Char) : List Char :=
  let basic := name.filter fun c => c.toNat < 128
  let codes := ((name.filter fun c => 128 ≤ c.toNat).map Char.toNat).mergeSort.eraseDups
  let start := if basic.isEmpty then [] else '-' :: basic.reverse
  let e := Encoder.insert name basic.length 128 codes { output := start, placed := basic.length }
  e.output.reverse

/-- A name on its way back: the characters so far, the code point and the place of the last
insertion, the bias, and the number that is being read with the weight of its next digit. -/
structure Decoder where
  output : List Char
  code : Nat := 128
  place : Nat := 0
  bias : Nat := 72
  sum : Nat := 0
  weight : Nat := 1
  position : Nat := 36

/-- Takes in a digit; the last digit of a number makes an insertion. -/
def Decoder.take? (d : Decoder) (c : Char) : Option Decoder := do
  let value ← digitValue? c
  let sum := d.sum + value * d.weight
  let t := threshold d.position d.bias
  if t ≤ value then
    some { d with sum, weight := d.weight * (36 - t), position := d.position + 36 }
  else
    let count := d.output.length + 1
    let total := d.place + sum
    let code := d.code + total / count
    let place := total % count
    if 0x110000 ≤ code ∨ (0xD800 ≤ code ∧ code < 0xE000) then none
    else some {
      output := d.output.insertIdx place (Char.ofNat code)
      code
      place := place + 1
      bias := adapt sum count (d.place = 0) }

/-- The name that plain letters stand for. A hyphen must have characters before it. -/
def decode? (text : List Char) : Option (List Char) := do
  let reversed := text.reverse
  let tail := (reversed.takeWhile (· ≠ '-')).reverse
  let basic := ((reversed.dropWhile (· ≠ '-')).drop 1).reverse
  if basic.isEmpty ∧ text.contains '-' then none
  else
    let d ← tail.foldlM Decoder.take? { output := basic }
    if d.position = 36 then some d.output else none

end NetworkTuning.Web.Punycode
