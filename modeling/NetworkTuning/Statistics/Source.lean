import NetworkTuning.Health
import NetworkTuning.Metrics
import NetworkTuning.Statistics.Counters

/-!
# Sources and samplers

A source reads counters and publishes what happened since its last reading; its first reading, and
the first after a failure, publish nothing. A sampler asks a source again and again, and reports
when the source begins to fail and when it works again.
-/

namespace NetworkTuning

/-- A source with its last reading; the interface's comes with the time it was taken. -/
inductive Source where
  | interface (directory : String) (previous : Option (Traffic × Nanoseconds))
  | processors (path : String) (previous : Option ProcessorTime)
  deriving Repr, DecidableEq, Inhabited

namespace Source

/-- The name of a source in reports. -/
def name : Source → String
  | interface _ _ => "interface"
  | processors _ _ => "cpu"

/-- Takes a reading and publishes what it yields. -/
def sample (s : Source) (files : FileTree) (now : Nanoseconds) (r : Readings) :
    Except ReadingError (Source × Readings) :=
  match s with
  | interface directory previous => do
    let current ← Traffic.read files directory
    let r := match previous with
      | some (before, at_) =>
        let rates := before.rates current (now - at_)
        r.publishRates rates.bytes rates.dropped rates.errors rates.fifoErrors
      | none => r
    return (interface directory (some (current, now)), r)
  | processors path previous => do
    let current ← ProcessorTime.read files path
    let r := match previous with
      | some before => r.publishCpu (before.busyShare current)
      | none => r
    return (processors path (some current), r)

/-- What a source does after a failed reading: it publishes zero and forgets its last reading. -/
def afterFailure (s : Source) (r : Readings) : Source × Readings :=
  match s with
  | interface directory _ => (interface directory none, r.clearRates)
  | processors path _ => (processors path none, r.publishCpu 0.0)

end Source

/-- A source and the number of readings in a row that failed; the count is a machine word, which
starts over when it is full. -/
structure Sampler where
  source : Source
  failures : UInt32 := 0
  deriving Repr, DecidableEq, Inhabited

namespace Sampler

/-- Takes one reading, and tells whether it could be taken. -/
def tick (s : Sampler) (files : FileTree) (now : Nanoseconds) (r : Readings) (m : Metrics) :
    Sampler × Readings × Metrics × Bool :=
  match s.source.sample files now r with
  | .ok (source, r) => ({ s with source }, r, m, true)
  | .error _ =>
    let (source, r) := s.source.afterFailure r
    ({ s with source }, r, m.readingFailure, false)

/-- Counts a reading, and reports the first failure and the first success after failures. -/
def record (s : Sampler) (taken : Bool) (health : Option Health) : Sampler × Option Health :=
  if taken then
    ({ s with failures := 0 },
      if 0 < s.failures then health.map fun h => h.setHealthy samplerPart else health)
  else
    ({ s with failures := s.failures + 1 },
      if s.failures = 0 then
        health.map fun h => h.setDegraded samplerPart (s.source.name ++ " unavailable")
      else health)

/-- One turn of the loop: a reading, and the report it gives rise to. -/
def turn (s : Sampler) (files : FileTree) (now : Nanoseconds) (r : Readings) (m : Metrics)
    (health : Option Health) : Sampler × Readings × Metrics × Option Health :=
  let (s, r, m, taken) := s.tick files now r m
  let (s, health) := s.record taken health
  (s, r, m, health)

/-- Puts a sampler together from what it was given; a period of zero is refused. -/
def build (source : Option Source) (readings : Option Readings) (period : Nanoseconds) :
    Except String Sampler :=
  match source, readings with
  | none, _ => .error "Stats source is required"
  | _, none => .error "Shared stats are required"
  | some source, some _ =>
    if period = 0 then .error "Sampling period must be positive" else .ok ⟨source, 0⟩

end Sampler

end NetworkTuning
