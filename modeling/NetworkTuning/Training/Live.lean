import NetworkTuning.Event

/-!
# Live training

Live training takes one step for each reading of the load, with the reading's transfer rate as the
key and the reading itself as the load of the new profile. An idle reading is passed over, and a
full table ends the run.
-/

namespace NetworkTuning.Training

/-- A live training run between two readings. -/
structure Live where
  summary : Summary := {}
  ended : Bool := false
  deriving Repr, DecidableEq, Inhabited

namespace Live

/-- Takes the step for the current load. -/
def tick (path : String) (l : Live) (s : Shared) : Live × Shared :=
  let load := s.readings.load
  if load.isIdle then (l, s)
  else
    let (table, metrics, result) :=
      step s.table load.transferRate (Target.ofLoad load s.settings) s.settings (some load)
        s.metrics
    let shared := Shared.recordSize { s with table, metrics }
    let saved := match snapshotDue table s.settings result with
      | some rows => (shared.saveSnapshot path rows).1
      | none => shared
    (⟨l.summary.record result, result = .full⟩, saved)

/-- The summary of a run that has ended. -/
def close (l : Live) (s : Shared) : Summary := { l.summary with entries := s.table.size }

/-- Live training that runs alone. -/
def schedule (path : String) : Schedule (Alone (Live × Shared)) Event :=
  Alone.schedule (fun _ w => w.1.tick path w.2) (fun e w => (w.1, e.apply w.2)) fun w => w.1.ended

/-- Live training looks at the load at once, and then at the period at which readings are taken. -/
def ticker (s : Settings) : Ticker := { due := 0, period := s.statsPeriod }

end Live

end NetworkTuning.Training
