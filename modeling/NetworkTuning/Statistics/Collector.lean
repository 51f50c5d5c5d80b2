import NetworkTuning.Statistics.Card
import NetworkTuning.Statistics.Counters

/-!
# Collecting profiles

A collector takes a complete profile of the running system: the load since its last reading and all
settings in force. The counters must be readable; the settings of the card and of the processors'
clock stay zero where they are not.
-/

namespace NetworkTuning

/-- Where a collector reads, and its last reading. -/
structure Collector where
  interface : String
  systemRoot : String := "sys"
  processRoot : String := "proc"
  previous : Option (Traffic × ProcessorTime) := none
  deriving Inhabited

/-- The code of a governor's name, zero if it has none. -/
def governorCode (name : List Char) : UInt16 :=
  match governors.findIdx? fun g => g.toList = Text.trim name with
  | some index => (index + 1).toUInt16
  | none => 0

namespace Collector

/-- The directory of the interface's counters. -/
def counters (c : Collector) : String :=
  counterDirectory (Path.join c.systemRoot "class/net") c.interface

/-- The file of the processors' times. -/
def processors (c : Collector) : String := Path.join c.processRoot "stat"

/-- A file that describes the processors' clock. -/
def clock (c : Collector) (name : String) : String :=
  Path.join (Path.join c.systemRoot "devices/system/cpu/cpu0/cpufreq") name

/-- What a file that describes the processors' clock holds, if it can be read. -/
def clock? (c : Collector) (files : FileTree) (name : String) : Option (List Char) :=
  match files.readText (c.clock name) with
  | .ok s => some s.toList
  | .error _ => none

/-- The directory of the kernel's settings. -/
def kernel (c : Collector) : String := Path.join c.processRoot "sys"

/-- All files that a collector reads. -/
def sources (c : Collector) : List String :=
  ["bytes", "errors", "dropped", "fifo_errors"].flatMap (fun counter =>
      [Path.join c.counters ("rx_" ++ counter), Path.join c.counters ("tx_" ++ counter)])
    ++ [c.processors, c.clock "scaling_governor", c.clock "scaling_cur_freq"]
    ++ systemSettings.map fun s => keyPath c.kernel s.key

/-- Takes the reading that the first profile's load counts from. -/
def prime (c : Collector) (files : FileTree) : Except ReadingError Collector := do
  let traffic ← Traffic.read files c.counters
  let times ← ProcessorTime.read files c.processors
  return { c with previous := some (traffic, times) }

/-- A profile with the load between two readings. -/
def withLoad (before : Traffic × ProcessorTime) (after : Traffic × ProcessorTime)
    (interval : Nanoseconds) (p : Profile) : Profile :=
  let rates := before.1.rates after.1 interval
  { p with
    transferRate := rates.bytes
    dropRate := rates.dropped
    errorRate := rates.errors
    fifoErrorRate := rates.fifoErrors
    cpuUsage := before.2.busyShare after.2 }

/-- A profile with the settings of the card. -/
def withCard (card : Card) (p : Profile) : Profile :=
  { p with
    rxRing := card.rxRing
    txRing := card.txRing
    rxCoalesceUsecs := card.coalescing.rxUsecs
    rxCoalesceFrames := card.coalescing.rxFrames
    txCoalesceUsecs := card.coalescing.txUsecs
    txCoalesceFrames := card.coalescing.txFrames
    offloads := card.offloads }

/-- Takes a profile, with the load of the time since the last reading. -/
@[irreducible]
def sample (c : Collector) (files : FileTree) (shell : Shell) (interval : Nanoseconds) :
    Collector × Shell × Except ReadingError Profile :=
  let reading := do
    let traffic ← Traffic.read files c.counters
    let (times, count) ← ProcessorTime.readWithCount files c.processors
    return (traffic, times, count)
  match reading with
  | .error e => (c, shell, .error e)
  | .ok (traffic, times, count) =>
    let settings := settingsInForce files c.kernel
    let loaded := match c.previous with
      | some before => withLoad before (traffic, times) interval settings
      | none => settings
    let counted := { loaded with cores := Width.saturate .word16 count.toUInt64 }
    let governed := match c.clock? files "scaling_governor" with
      | some name => { counted with governor := governorCode name }
      | none => counted
    let clocked := match c.clock? files "scaling_cur_freq" with
      | some text => { governed with cpuSpeed := (Decimal.word32? (Text.trim text)).getD 0 }
      | none => governed
    let c := { c with previous := some (traffic, times) }
    match Card.read shell c.interface with
    | (shell, .ok card) => (c, shell, .ok (withCard card clocked))
    | (shell, .error _) => (c, shell, .ok clocked)

end Collector

end NetworkTuning
