import NetworkTuning.Load.Basic
import NetworkTuning.Load.Tolerance
import NetworkTuning.Profile.Column
import NetworkTuning.Table.Basic

/-!
# Deriving a new profile from a reference

A new profile starts as a copy of a reference row under a new key. Its load comes from a live
reading if there is one and from the reference otherwise, the numeric settings are scaled up or down
by the precision, and what ends up on the wrong side of the neighbour that the new place moved
toward is pulled back to it. Settings that are choices rather than sizes stay those of the
reference.
-/

namespace NetworkTuning

/-- On which side of the reference a new key lies. -/
inductive Side where
  | below
  | above
  deriving Repr, DecidableEq, Inhabited

namespace Column

/-- The load a profile was recorded under, its key apart. -/
def loads : List Column := [dropRate, errorRate, fifoErrorRate, cpuUsage]

/-- Sizes taken over from the reference as they are. -/
def seeded : List Column :=
  [cpuSpeed, schedMinGranularity, schedWakeupGranularity, schedMigrationCost, pidMax]

/-- Sizes scaled by the precision. -/
def scaled : List Column := [
  rxRing, txRing, netdevMaxBacklog, netdevBudget, somaxconn, tcpMaxSynBacklog, rmemMax, wmemMax,
  rmemDefault, wmemDefault, tcpRmemLeast, tcpRmemUsual, tcpRmemMost, tcpWmemLeast, tcpWmemUsual,
  tcpWmemMost]

end Column

/-- A value scaled down below the reference and up above it. -/
def scaleValue (x : Float) (side : Side) (precision : Float) : Float :=
  match side with
  | .below => x - x * precision
  | .above => x + x * precision

/-- The nearest value that 32 bits hold; NaN stays. -/
def clampToWord32 (x : Float) : Float :=
  if x < 0.0 then 0.0 else if 4294967295.0 < x then 4294967295.0 else x

/-- The neighbour that a new place moved toward, seen from the reference. -/
inductive Toward where
  | left (neighbour : Option Profile)
  | right (neighbour : Option Profile)
  | nowhere

/-- What pulls values back: the neighbour, and how a tolerance around its values is computed. -/
structure Adjustment where
  toward : Toward
  precision : Float
  approximation : Approximation

/-- The tolerance around a neighbour's value, none if it is not a finite number. -/
def Adjustment.slack (a : Adjustment) (x : Float) : Float :=
  let t := tolerance x a.precision a.approximation
  if t.isFinite then t else 0.0

/-- A value pulled back to the neighbour when it lies beyond it. -/
def Adjustment.adjust (a : Adjustment) (c : Column) (x : Float) : Float :=
  match a.toward with
  | .left (some p) => if x < c.measure p then c.measure p + a.slack (c.measure p) else x
  | .right (some p) => if c.measure p < x then c.measure p - a.slack (c.measure p) else x
  | _ => x

/-- Stores, in each of the columns, what `value` gives for it. -/
def Profile.storeAll (p : Profile) (columns : List Column) (value : Column → Float) : Profile :=
  columns.foldl (fun q c => c.store (value c) q) p

/-- A profile for a new key, and the place where it belongs. -/
structure Synthesized where
  index : Nat
  profile : Profile
  deriving Inhabited

namespace Table

/-- The neighbour toward which a place moved away from the reference's. -/
def toward (t : Table) (index reference : Nat) : Toward :=
  if index < reference then .left (t.leftOf? index)
  else if reference < index then .right (t.rightOf? index)
  else .nowhere

/-- Derives a profile for `key` from the row at `reference`; the table stays as it is. -/
def synthesize (t : Table) (reference : Nat) (key : UInt64) (precision : Float)
    (f : Approximation) (live : Option Load) : Except TableError Synthesized := do
  let some row := t.rows[reference]? | .error (.outOfRange reference t.rows.size)
  let index ← t.place key
  let side : Side := if key < row.key then .below else .above
  let adjustment : Adjustment := ⟨t.toward index reference, precision, f⟩
  let copy := { row with transferRate := key }
  let loaded := match live with
    | some l =>
      { copy with
        dropRate := l.dropRate
        errorRate := l.errorRate
        fifoErrorRate := l.fifoErrorRate
        cpuUsage := l.cpuUsage }
    | none => copy.storeAll Column.loads fun c => adjustment.adjust c (c.measure row)
  let kept := loaded.storeAll Column.seeded fun c => adjustment.adjust c (c.measure row)
  let sized := kept.storeAll Column.scaled fun c =>
    adjustment.adjust c (clampToWord32 (scaleValue (c.measure row) side precision))
  return ⟨index, sized⟩

/-- Derives a profile for `key` and inserts it, and tells where. -/
def augment (t : Table) (reference : Nat) (key : UInt64) (precision : Float) (f : Approximation)
    (live : Option Load) : Except TableError (Table × Nat) :=
  if t.isFull then .error (.full t.capacity)
  else do
    let new ← t.synthesize reference key precision f live
    let grown ← t.insertAt new.index new.profile
    return (grown, new.index)

end Table

end NetworkTuning
