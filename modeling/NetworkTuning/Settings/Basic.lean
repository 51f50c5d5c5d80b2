import NetworkTuning.Decimal.Reading
import NetworkTuning.Decimal.Shortest
import NetworkTuning.Load.Basic
import NetworkTuning.Load.Tolerance
import NetworkTuning.Settings.Labels

/-!
# Settings

The settings of a run, the document they are given in, and the conditions under which a document is
accepted. A document with several faults is refused for the first of them, in the order in which
`Settings.ofDocument` looks. Durations are whole nanoseconds.
-/

namespace NetworkTuning

/-- A duration in nanoseconds. -/
abbrev Nanoseconds := Nat

/-- One second. -/
def second : Nanoseconds := 1000000000

/-- A duration in seconds, the whole seconds and the fraction converted apart. -/
def Nanoseconds.toSeconds (d : Nanoseconds) : Float :=
  (d / second).toUInt64.toFloat + (d % second).toUInt64.toFloat / 1e9

/-- A number of seconds to the nearest nanosecond, a tie to the even one; a negative number, one of
`2 ^ 64` or more, or none at all, is no duration. -/
def Nanoseconds.ofSeconds? (x : Float) : Option Nanoseconds :=
  match Decimal.Binary.ofFloat? x with
  | none => none
  | some b =>
    if b.negative ∧ b.mantissa ≠ 0 then none
    else
      let (numerator, denominator) := b.ratio 9
      let nanos := Decimal.roundTiesToEven numerator denominator
      if nanos < UInt64.size * second then some nanos else none

/-- The settings of a run. -/
structure Settings where
  /-- Places kept free for learned profiles. -/
  learning : Nat := 0
  /-- Insertions between two snapshots. -/
  savingLoop : Nat := 1000
  accuracy : Float := 0.5
  approximation : Approximation := .identity
  /-- How long a lower score is borne before settings are lowered. -/
  gracePeriod : Nanoseconds := 0
  statsPeriod : Nanoseconds := 10000000
  inferencePeriod : Nanoseconds := 10000000
  pluginsPath : String := ""
  weights : Weights := {}
  labels : Labels := {}
  deriving Inhabited

/-- The settings as a document gives them. -/
structure Document where
  learning : Int
  savingLoop : Int
  accuracy : Float
  approximation : Int
  gracePeriod : Int
  statsPeriod : Float
  inferencePeriod : Float
  pluginsPath : String
  weights : Weights
  labels : Labels
  deriving Inhabited

/-- Why the values of a document are refused. -/
inductive SettingsError where
  | weightsExceedOne (sum : Float)
  | negativeWeight (name : String) (value : Float)
  | unknownApproximation (selector : Int)
  | badAccuracy (value : Float)
  | badPeriod (name : String) (value : Float)
  | outOfRange (name : String) (value : Float)
  | negativeCount (name : String) (value : Int)
  deriving Inhabited

/-- The wording of a refusal. -/
def SettingsError.message : SettingsError → String
  | weightsExceedOne sum => "sum of weights is " ++ Decimal.plain sum ++ ", must not exceed 1.0"
  | negativeWeight name value =>
    s!"weight {name} is " ++ Decimal.plain value ++ ", weights must be non-negative"
  | unknownApproximation selector => s!"approx_function {selector} is invalid, expected 0..=4"
  | badAccuracy value =>
    "accuracy " ++ Decimal.plain value ++ " is invalid, expected a value in [0, 1)"
  | badPeriod name value => s!"{name} is " ++ Decimal.plain value ++ ", must be positive"
  | outOfRange name value =>
    s!"{name} is " ++ Decimal.plain value ++ ", too large for a duration"
  | negativeCount name value => s!"{name} is {value}, must not be negative"

/-- The four weights with their names. -/
def Weights.named (w : Weights) : List (String × Float) :=
  [("transfer_rate_weight", w.transfer), ("drop_rate_weight", w.drop),
    ("errors_rate_weight", w.errors), ("fifo_errors_rate_weight", w.fifo)]

/-- Refuses the first weight that is not zero or more, and then a sum above one. -/
def Weights.validate (w : Weights) : Except SettingsError Unit :=
  match w.named.find? fun entry => !(0.0 ≤ entry.2) with
  | some (name, value) => .error (.negativeWeight name value)
  | none => if 1.0 < w.sum then .error (.weightsExceedOne w.sum) else .ok ()

/-- The least number of insertions between two snapshots. -/
def leastSavingLoop : Nat := 1000

/-- The period that readings are taken at: the given one if it is positive, one second otherwise. -/
def effectivePeriod (x : Float) : Float := if x.isNaN || x ≤ 0.0 then 1.0 else x

/-- The duration of a named setting. -/
def durationOf (name : String) (x : Float) : Except SettingsError Nanoseconds :=
  match Nanoseconds.ofSeconds? x with
  | some d => .ok d
  | none => .error (.outOfRange name x)

/-- The settings that a document gives. -/
def Settings.ofDocument (d : Document) : Except SettingsError Settings := do
  if d.learning < 0 then .error (.negativeCount "max_learning_values" d.learning)
  if !(0.0 < d.inferencePeriod && d.inferencePeriod.isFinite) then
    .error (.badPeriod "inference_loop_period" d.inferencePeriod)
  if !(0.0 ≤ d.accuracy && d.accuracy < 1.0) then .error (.badAccuracy d.accuracy)
  let some f := Approximation.ofSelector? d.approximation
    | .error (.unknownApproximation d.approximation)
  if d.gracePeriod < 0 then .error (.negativeCount "grace_period" d.gracePeriod)
  if UInt64.size ≤ d.gracePeriod.toNat * 60 then
    .error (.outOfRange "grace_period" (Float.ofInt d.gracePeriod))
  let statsPeriod ← durationOf "stats_collection_period" (effectivePeriod d.statsPeriod)
  let inferencePeriod ← durationOf "inference_loop_period" d.inferencePeriod
  d.weights.validate
  return {
    learning := d.learning.toNat
    savingLoop := max leastSavingLoop d.savingLoop.toNat
    accuracy := d.accuracy
    approximation := f
    gracePeriod := d.gracePeriod.toNat * 60 * second
    statsPeriod
    inferencePeriod
    pluginsPath := d.pluginsPath
    weights := d.weights
    labels := d.labels }

end NetworkTuning
