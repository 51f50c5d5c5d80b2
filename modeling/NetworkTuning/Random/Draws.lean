/-!
# A stream of random words

A stream gives out the words it was handed, in order, and then goes on by mixing a counter that
advances in steps of a fixed odd number. A number below a bound is drawn without bias: a word times
the bound has its result in the upper half, and the word is rejected when the lower half lies beyond
the last whole multiple of the bound.
-/

namespace NetworkTuning.Random

/-- The words still to be given out in order, and the counter that follows them. -/
structure Draws where
  listed : List UInt64 := []
  counter : UInt64 := 0
  deriving Repr, DecidableEq, Inhabited

/-- The mixed value of a counter. -/
def mix (counter : UInt64) : UInt64 :=
  let z := counter
  let z := (z ^^^ (z >>> 30)) * 0xBF58476D1CE4E5B9
  let z := (z ^^^ (z >>> 27)) * 0x94D049BB133111EB
  z ^^^ (z >>> 31)

/-- The next word and the stream after it. -/
def Draws.next (s : Draws) : UInt64 × Draws :=
  match s.listed with
  | word :: rest => (word, { s with listed := rest })
  | [] =>
    let counter := s.counter + 0x9E3779B97F4A7C15
    (mix counter, { s with counter })

/-- The largest lower half of an accepted product: the bound shifted until its top bit is set, less
one. -/
def zone (bound : UInt64) : UInt64 :=
  (bound <<< (63 - bound.toNat.log2).toUInt64) - 1

/-- The number below `bound` that a word stands for, unless the word is rejected. -/
def accept? (bound word : UInt64) : Option UInt64 :=
  let product := word.toNat * bound.toNat
  if product % UInt64.size ≤ (zone bound).toNat then some (product / UInt64.size).toUInt64
  else none

/-- Draws words until one is accepted. -/
def Draws.belowIn (bound : UInt64) : Nat → Draws → UInt64 × Draws
  | 0, s => (0, s)
  | fuel + 1, s =>
    let (word, s) := s.next
    match accept? bound word with
    | some n => (n, s)
    | none => s.belowIn bound fuel

/-- A number below `bound`. The counter runs through all words, so one of them is accepted. -/
def Draws.below (bound : UInt64) (s : Draws) : UInt64 × Draws :=
  s.belowIn bound (s.listed.length + UInt64.size)

end NetworkTuning.Random
