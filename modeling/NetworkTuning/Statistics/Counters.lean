import NetworkTuning.Command.System
import NetworkTuning.Statistics.Readings

/-!
# Counters of the system

The counters of an interface and of the processors are read from files and only ever grow. Two
readings give rates: of the interface per second, of the processors as the busy share of the time
between them. Sums stop at the largest number and differences at zero, so a counter that starts over
counts as no growth.
-/

namespace NetworkTuning

/-- The sum, or the largest number if it is larger. -/
def addUpTo (a b : UInt64) : UInt64 := if a + b < a then 0xFFFFFFFFFFFFFFFF else a + b

/-- The difference, or zero if there is none. -/
def growth (before after : UInt64) : UInt64 := if after < before then 0 else after - before

/-- The counters of an interface, both directions added up. -/
structure Traffic where
  bytes : UInt64 := 0
  errors : UInt64 := 0
  dropped : UInt64 := 0
  fifoErrors : UInt64 := 0
  deriving Repr, DecidableEq, Inhabited

/-- The time the processors were idle and busy. -/
structure ProcessorTime where
  idle : UInt64 := 0
  busy : UInt64 := 0
  deriving Repr, DecidableEq, Inhabited

/-- Idle and busy time together. -/
def ProcessorTime.total (t : ProcessorTime) : UInt64 := addUpTo t.idle t.busy

/-- The growth of each counter per second. -/
def Traffic.rates (before after : Traffic) (elapsed : Nanoseconds) : Traffic where
  bytes := perSecond (growth before.bytes after.bytes) elapsed
  errors := perSecond (growth before.errors after.errors) elapsed
  dropped := perSecond (growth before.dropped after.dropped) elapsed
  fifoErrors := perSecond (growth before.fifoErrors after.fifoErrors) elapsed

/-- The busy share of the time between two readings, in percent. -/
def ProcessorTime.busyShare (before after : ProcessorTime) : Float :=
  let total := (growth before.total after.total).toFloat
  let idle := (growth before.idle after.idle).toFloat
  if total ≤ 0.0 then 0.0
  else
    let share := (total - idle) / total * 100.0
    if share < 0.0 then 0.0 else if 100.0 < share then 100.0 else share

/-- The first word of a line. -/
def firstWord (line : List Char) : List Char := (Text.words line).headD []

/-- The times in the line of all processors together. The columns are user, nice, system, idle, wait
for devices, interrupts, soft interrupts, and stolen time; what is absent or no number counts as
zero. -/
def ProcessorTime.ofText (content : List Char) : Except ReadingError ProcessorTime :=
  match (Text.lines content).find? fun line => firstWord line = "cpu".toList with
  | none => .error .noTotalLine
  | some line =>
    let values := ((Text.words line).drop 1).map fun word => (Decimal.word64? word).getD 0
    let column (index : Nat) : UInt64 := values.getD index 0
    .ok ⟨addUpTo (column 3) (column 4),
      [column 1, column 2, column 5, column 6, column 7].foldl addUpTo (column 0)⟩

/-- The number of lines of single processors. -/
def processorCount (content : List Char) : Nat :=
  (Text.lines content).countP fun line =>
    match Text.after? "cpu".toList (firstWord line) with
    | some number => !number.isEmpty && number.all Char.isDigit
    | none => false

/-- The text of the processors' file. -/
def processorText (files : FileTree) (path : String) : Except ReadingError (List Char) :=
  match files.readText path with
  | .ok s => .ok s.toList
  | .error cause => .error (.unavailable path cause)

/-- Reads the processors' times. -/
def ProcessorTime.read (files : FileTree) (path : String) : Except ReadingError ProcessorTime := do
  ProcessorTime.ofText (← processorText files path)

/-- Reads the processors' times and their number. -/
def ProcessorTime.readWithCount (files : FileTree) (path : String) :
    Except ReadingError (ProcessorTime × Nat) := do
  let content ← processorText files path
  let times ← ProcessorTime.ofText content
  return (times, processorCount content)

/-- Reads one counter of an interface. -/
def readCounter (files : FileTree) (directory name : String) : Except ReadingError UInt64 := do
  let path := Path.join directory name
  let content ← (files.readText path).mapError fun cause => .unavailable path cause
  let word := Text.trim content.toList
  match Decimal.word64? word with
  | some n => .ok n
  | none => .error (.notANumber path (String.ofList word))

/-- Reads a counter of both directions. -/
def readBoth (files : FileTree) (directory counter : String) : Except ReadingError UInt64 := do
  let received ← readCounter files directory ("rx_" ++ counter)
  let sent ← readCounter files directory ("tx_" ++ counter)
  return addUpTo received sent

/-- The directory of an interface's counters. -/
def counterDirectory (root interface : String) : String :=
  Path.join (Path.join root interface) "statistics"

/-- Reads the counters of an interface. -/
def Traffic.read (files : FileTree) (directory : String) : Except ReadingError Traffic := do
  let bytes ← readBoth files directory "bytes"
  let errors ← readBoth files directory "errors"
  let dropped ← readBoth files directory "dropped"
  let fifoErrors ← readBoth files directory "fifo_errors"
  return ⟨bytes, errors, dropped, fifoErrors⟩

end NetworkTuning
