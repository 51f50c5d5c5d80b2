/-!
# Metrics

What a run counts. Of a latency only the number of observations is kept, since durations of work are
no part of what a run computes. The table's size and the current score are gauges, which show the
last value set.
-/

namespace NetworkTuning

/-- The counters and gauges of a run. -/
structure Metrics where
  insertions : Nat := 0
  duplicateKeys : Nat := 0
  searchMisses : Nat := 0
  searches : Nat := 0
  snapshots : Nat := 0
  snapshotErrors : Nat := 0
  evaluations : Nat := 0
  inferenceMatches : Nat := 0
  settingsApplied : Nat := 0
  applyErrors : Nat := 0
  statsErrors : Nat := 0
  tableEntries : Nat := 0
  tableCapacity : Nat := 0
  currentScore : Float := 0.0
  deriving Inhabited

namespace Metrics

/-- One more search, and one more miss unless it found something. -/
def search (m : Metrics) (found : Bool) : Metrics :=
  { m with
    searches := m.searches + 1
    searchMisses := if found then m.searchMisses else m.searchMisses + 1 }

/-- One more insertion. -/
def insertion (m : Metrics) : Metrics := { m with insertions := m.insertions + 1 }

/-- One more key that was there already. -/
def duplicateKey (m : Metrics) : Metrics := { m with duplicateKeys := m.duplicateKeys + 1 }

/-- One more snapshot, written or failed. -/
def snapshot (m : Metrics) (written : Bool) : Metrics :=
  if written then { m with snapshots := m.snapshots + 1 }
  else { m with snapshotErrors := m.snapshotErrors + 1 }

/-- One more search of the inference loop. -/
def evaluation (m : Metrics) : Metrics := { m with evaluations := m.evaluations + 1 }

/-- One more match of the inference loop. -/
def inferenceMatch (m : Metrics) : Metrics := { m with inferenceMatches := m.inferenceMatches + 1 }

/-- One more profile whose settings were applied. -/
def applied (m : Metrics) : Metrics := { m with settingsApplied := m.settingsApplied + 1 }

/-- More failures to apply settings. -/
def applyFailures (m : Metrics) (count : Nat) : Metrics :=
  { m with applyErrors := m.applyErrors + count }

/-- One more failed reading. -/
def readingFailure (m : Metrics) : Metrics := { m with statsErrors := m.statsErrors + 1 }

/-- The size of the table. -/
def tableSize (m : Metrics) (entries capacity : Nat) : Metrics :=
  { m with tableEntries := entries, tableCapacity := capacity }

/-- The score of the last load that was looked at. -/
def score (m : Metrics) (x : Float) : Metrics := { m with currentScore := x }

end Metrics

end NetworkTuning
