import NetworkTuning.Metrics
import NetworkTuning.Settings.Basic
import NetworkTuning.Table.Search
import NetworkTuning.Table.Synthesis

/-!
# Training steps

A training step searches the table for a target and, on a match, derives a profile for a key from
the match and inserts it. A full table is found full before anything is searched. A summary counts
what steps come to; summaries of workers are merged.
-/

namespace NetworkTuning

/-- What a search looks for: a score, its precision, and its tolerance. -/
structure Target where
  score : Float
  precision : Float
  tolerance : Float
  deriving Inhabited

/-- The target of a score. -/
def Target.ofScore (score : Float) (s : Settings) : Target :=
  let p := NetworkTuning.precision score s.accuracy
  ⟨score, p, NetworkTuning.tolerance score p s.approximation⟩

/-- The target of a load. -/
def Target.ofLoad (l : Load) (s : Settings) : Target := Target.ofScore (l.score s.weights) s

/-- Searches a table for a target, and counts the search. -/
def Target.search (g : Target) (t : Table) (w : Weights) (m : Metrics) : Match × Metrics :=
  let result := find t.rows g.score g.tolerance w
  (result, m.search result.found.isSome)

namespace Training

/-- What a training step comes to. -/
inductive Step where
  | inserted (index : Nat) (key : UInt64)
  | duplicate (key : UInt64)
  | missed (key : UInt64) (closest : Option Nat)
  | full
  deriving Repr, DecidableEq, Inhabited

/-- One training step for a key; `live` is the load of a live step. -/
def step (t : Table) (key : UInt64) (g : Target) (s : Settings) (live : Option Load) (m : Metrics) :
    Table × Metrics × Step :=
  if t.isFull then (t, m, .full)
  else
    let (result, m) := g.search t s.weights m
    match result.found with
    | none => (t, m, .missed key result.closest)
    | some reference =>
      match t.augment reference key g.precision s.approximation live with
      | .ok (grown, index) => (grown, m.insertion, .inserted index key)
      | .error (.duplicateKey key) => (t, m.duplicateKey, .duplicate key)
      | .error (.full _) => (t, m, .full)
      | .error (.outOfRange _ _) => (t, m, .missed key result.closest)

/-- What a training run comes to. -/
structure Summary where
  inserted : Nat := 0
  duplicates : Nat := 0
  misses : Nat := 0
  /-- The size of the table when the run ended. -/
  entries : Nat := 0
  /-- Whether the run ended because the table was full. -/
  full : Bool := false
  /-- Whether a worker gave up after too many steps in a row without an insertion. -/
  stalled : Bool := false
  deriving Repr, DecidableEq, Inhabited

/-- Two summaries in one. -/
def Summary.merge (a b : Summary) : Summary where
  inserted := a.inserted + b.inserted
  duplicates := a.duplicates + b.duplicates
  misses := a.misses + b.misses
  entries := max a.entries b.entries
  full := a.full || b.full
  stalled := a.stalled || b.stalled

/-- A summary with one more step. -/
def Summary.record (s : Summary) : Step → Summary
  | .inserted _ _ => { s with inserted := s.inserted + 1 }
  | .duplicate _ => { s with duplicates := s.duplicates + 1 }
  | .missed _ _ => { s with misses := s.misses + 1 }
  | .full => { s with full := true }

/-- The rows to keep in a snapshot after a step: all of them, if the step inserted one and their
number is a multiple of the saving loop. -/
def snapshotDue (t : Table) (s : Settings) : Step → Option (List Profile)
  | .inserted _ _ => if t.size % max s.savingLoop 1 = 0 then some t.rows.toList else none
  | _ => none

end Training

end NetworkTuning
