import NetworkTuning.Statistics.Collector
import NetworkTuning.TableFile.Row

/-!
# Collecting a table file

A collection samples the running system at regular intervals and writes a table file as it goes: the
header first, then a row for each sample with traffic. It stops at the first reading that fails, and
what was written until then stays written.
-/

namespace NetworkTuning

/-- What has been written, how many rows, and how many samples were without traffic. -/
structure Collection where
  text : String := ""
  rows : Nat := 0
  idle : Nat := 0
  deriving Repr, DecidableEq, Inhabited

/-- Why a collection stopped. -/
inductive CollectionError where
  /-- The reading that the first sample counts from failed. -/
  | firstReading (cause : ReadingError)
  | laterReading (cause : ReadingError)
  deriving Repr, DecidableEq, Inhabited

/-- What went wrong, the outermost first. -/
def CollectionError.chain : CollectionError → List String
  | firstReading cause => "Failed to take the first reading" :: cause.chain
  | laterReading cause => cause.chain

namespace Collection

/-- A collection as it goes: ended, or waiting for the files as they stand one interval later. -/
inductive Course where
  | ended (c : Collection) (outcome : Except CollectionError Unit)
  | waiting (c : Collection) (resume : FileTree → Course)

/-- A collection with one more sample. -/
def record (c : Collection) (p : Profile) : Collection :=
  if p.transferRate = 0 then { c with idle := c.idle + 1 }
  else { c with text := c.text ++ p.row ++ "\n", rows := c.rows + 1 }

/-- A collection with its header. -/
def opened : Collection := { text := headerLine ++ "\n" }

/-- The course of a collection that takes `count` more samples. -/
def sampling (collector : Collector) (shell : Shell) (interval : Nanoseconds) (c : Collection) :
    Nat → Course
  | 0 => .ended c (.ok ())
  | count + 1 =>
    .waiting c fun files =>
      match collector.sample files shell interval with
      | (collector, shell, .ok p) => sampling collector shell interval (c.record p) count
      | (_, _, .error cause) => .ended c (.error (.laterReading cause))

/-- The course of a collection of `count` samples, where the files stand as in `first` at its start.
-/
def course (collector : Collector) (shell : Shell) (interval : Nanoseconds) (first : FileTree)
    (count : Nat) : Course :=
  match collector.prime first with
  | .error cause => .ended opened (.error (.firstReading cause))
  | .ok collector => sampling collector shell interval opened count

/-- The end of a course if the next sample finds the files in the state of number `index`, the one
after it in the next state, and so on. -/
def Course.over (states : Nat → FileTree) (index : Nat) :
    Course → Collection × Except CollectionError Unit
  | .ended c outcome => (c, outcome)
  | .waiting _ resume => (resume (states index)).over states (index + 1)

/-- The state of the files when the sample of a number is taken, under changes given with their
instants: the first sample is taken one interval after the start. -/
def stateAt (interval : Nanoseconds) (changes : List (Nanoseconds × List (String × Option Node)))
    (files : FileTree) (index : Nat) : FileTree :=
  (changes.takeWhile fun c => c.1 < (index + 1) * interval).foldl (fun t c => t.change c.2) files

end Collection

end NetworkTuning
