import NetworkTuning.Random.Draws
import NetworkTuning.Training.Shared

/-!
# Training workers

A worker draws keys below the largest key of the table and takes a training step for each. Drawing,
searching and inserting are one step that no other worker interrupts; a snapshot that such a step
calls for is a copy of the rows, and is written in a step of its own. A worker ends when it is told
to, when there is no key to draw, when the table is full, or when too many steps in a row inserted
nothing.
-/

namespace NetworkTuning.Training

open NetworkTuning.Random

/-- How many steps in a row without an insertion make a worker give up. -/
def patience : Nat := 100000

/-- Draws a key below the largest key; zero stands for the smallest key. There is none to draw when
the table is empty or its largest key is zero. -/
def drawKey (draws : Draws) (t : Table) : Option UInt64 × Draws :=
  match t.maxKey? with
  | none => (none, draws)
  | some most =>
    if most = 0 then (none, draws)
    else
      let (key, draws) := draws.below most
      (if key = 0 then t.minKey? else some key, draws)

/-- A worker between two steps. -/
structure Worker where
  draws : Draws := {}
  /-- Steps in a row without an insertion. -/
  misses : Nat := 0
  summary : Summary := {}
  /-- Rows copied for a snapshot that is still to be written. -/
  pending : Option (List Profile) := none
  ended : Bool := false
  deriving Inhabited

namespace Worker

/-- What a step means for the worker: a full table and lost patience end it. -/
def settle (w : Worker) : Step → Worker
  | .full => { w with ended := true }
  | .inserted _ _ => { w with misses := 0 }
  | .duplicate _ | .missed _ _ =>
    let misses := w.misses + 1
    if patience ≤ misses then
      { w with misses, ended := true, summary := { w.summary with stalled := true } }
    else { w with misses }

/-- Draws a key and takes a training step for it, as one step that nothing interrupts. -/
def advance (w : Worker) (s : Shared) : Worker × Shared :=
  match drawKey w.draws s.table with
  | (none, draws) => ({ w with draws, ended := true }, s)
  | (some key, draws) =>
    let load := s.readings.load
    let score := s.settings.weights.score key load.dropRate load.errorRate load.fifoErrorRate
    let (table, metrics, result) :=
      step s.table key (Target.ofScore score s.settings) s.settings none s.metrics
    let shared := Shared.recordSize { s with table, metrics }
    let summary := w.summary.record result
    let pending := snapshotDue table s.settings result
    (settle { w with draws, summary, pending } result, shared)

/-- Writes the snapshot that is still to be written. -/
def save (path : String) (w : Worker) (s : Shared) : Worker × Shared :=
  match w.pending with
  | none => (w, s)
  | some rows => ({ w with pending := none }, (s.saveSnapshot path rows).1)

/-- Runs a worker alone, at most `fuel` steps. -/
def runFor (path : String) : Nat → Worker → Shared → Worker × Shared
  | 0, w, s => (w, s)
  | fuel + 1, w, s =>
    if w.ended then (w, s)
    else
      let (w, s) := w.advance s
      let (w, s) := w.save path s
      runFor path fuel w s

/-- More steps than a worker can take: each free place allows one insertion, and between two
insertions patience bounds the steps. -/
def bound (t : Table) : Nat := (t.capacity - t.size + 1) * patience + 1

/-- Runs a worker alone until it ends. A worker that was told to stop before takes no step. -/
def run (path : String) (stopped : Bool) (w : Worker) (s : Shared) : Worker × Shared :=
  if stopped then ({ w with ended := true }, s) else runFor path (bound s.table) w s

end Worker

/-- Runs workers one after the other and merges their summaries. -/
def runWorkers (path : String) (stopped : Bool) : List Draws → Shared → Summary × Shared
  | [], s => ({}, s)
  | draws :: rest, s =>
    let (w, s) := Worker.run path stopped { draws } s
    let (summary, s) := runWorkers path stopped rest s
    (w.summary.merge summary, s)

/-- Trains with one worker for each stream of draws, at least one. -/
def run (path : String) (stopped : Bool) (streams : List Draws) (s : Shared) : Summary × Shared :=
  let (summary, s) := runWorkers path stopped (if streams.isEmpty then [{}] else streams) s
  ({ summary with entries := s.table.size }, s)

end NetworkTuning.Training
