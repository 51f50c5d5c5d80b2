import NetworkTuning.Command.Applier
import NetworkTuning.Statistics.Readings

/-!
# Deciding when to search

A load whose score lies within the tolerance of the last applied one keeps the settings, and a lower
score keeps them for a grace period after the last change. Everything else calls for a search. The
searches and their matches are counted for a report.
-/

namespace NetworkTuning.Inference

/-- What a score calls for. -/
inductive Decision where
  /-- The score has hardly moved. -/
  | smallDelta (delta tolerance : Float)
  /-- The score has dropped, too soon after the last change. -/
  | gracePeriod (sinceChange : Nanoseconds)
  | search
  deriving Inhabited

/-- Decides on a score; `baseline` is the score of the last applied profile. -/
def decide (score baseline tolerance : Float) (sinceChange grace : Nanoseconds) : Decision :=
  let delta := (score - baseline).abs
  if delta < tolerance then .smallDelta delta tolerance
  else if score < baseline && sinceChange ≤ grace then .gracePeriod sinceChange
  else .search

/-- How many searches there were, and how many found a profile. -/
structure Counters where
  loops : Nat := 0
  hits : Nat := 0
  deriving Repr, DecidableEq, Inhabited

/-- One more search. -/
def Counters.record (c : Counters) (hit : Bool) : Counters :=
  ⟨c.loops + 1, if hit then c.hits + 1 else c.hits⟩

/-- What is reported of the searches. -/
structure Report where
  loops : Nat := 0
  hits : Nat := 0
  /-- The share of searches that found a profile, in percent. -/
  successRate : Float := 0.0
  least : Option UInt64 := none
  most : Option UInt64 := none
  deriving Inhabited

/-- The report of the searches so far. -/
def Counters.report (c : Counters) (marks : Watermarks) : Report where
  loops := c.loops
  hits := c.hits
  successRate :=
    if c.loops = 0 then 0.0
    else c.hits.toUInt64.toFloat / c.loops.toUInt64.toFloat * 100.0
  least := marks.least
  most := marks.most

end NetworkTuning.Inference
