import NetworkTuning.Health
import NetworkTuning.Statistics.Readings
import NetworkTuning.TableFile.Basic
import NetworkTuning.Training.Basic

/-!
# What the loops of a run share

The loops of a run work on one table under one set of settings, read the load that was published
last, count in the same metrics, and write snapshots to the same files.
-/

namespace NetworkTuning

/-- What the loops of a run share. -/
structure Shared where
  settings : Settings := {}
  table : Table := {}
  readings : Readings := {}
  metrics : Metrics := {}
  files : FileTree := {}
  deriving Inhabited

namespace Shared

/-- Shows the size of the table in the metrics. -/
def recordSize (s : Shared) : Shared :=
  { s with metrics := s.metrics.tableSize s.table.size s.table.capacity }

/-- Writes a snapshot and counts it; a snapshot that cannot be written is only counted. -/
def saveSnapshot (s : Shared) (path : String) (rows : List Profile) : Shared × Option Nat :=
  match TableFile.write s.files path rows with
  | (files, .ok count) => ({ s with files, metrics := s.metrics.snapshot true }, some count)
  | (files, .error _) => ({ s with files, metrics := s.metrics.snapshot false }, none)

end Shared

end NetworkTuning
