import NetworkTuning.Event
import NetworkTuning.Statistics.Source

/-!
# Samplers that run

A sampler takes its first reading at once and then one every period.
-/

namespace NetworkTuning.Sampler

/-- The instants of a sampler. -/
def ticker (period : Nanoseconds) : Ticker := { due := 0, period }

/-- A sampler with what it publishes to and reports to. -/
structure Work where
  sampler : Sampler
  shared : Shared := {}
  health : Option Health := none
  deriving Inhabited

/-- One turn of the sampler. -/
def Work.turn (now : Nanoseconds) (w : Work) : Work :=
  let (sampler, readings, metrics, health) :=
    w.sampler.turn w.shared.files now w.shared.readings w.shared.metrics w.health
  { sampler, shared := { w.shared with readings, metrics }, health }

/-- One reading without a report of how it went, and whether it could be taken. -/
def Work.tick (now : Nanoseconds) (w : Work) : Work × Bool :=
  let (sampler, readings, metrics, taken) :=
    w.sampler.tick w.shared.files now w.shared.readings w.shared.metrics
  ({ w with sampler, shared := { w.shared with readings, metrics } }, taken)

/-- A sampler that runs alone. -/
def schedule : Schedule (Alone Work) Event :=
  Alone.schedule (fun f => Work.turn f.now)
    (fun e w => { w with shared := e.apply w.shared }) fun _ => false

end NetworkTuning.Sampler
