import NetworkTuning.Profile.Basic

/-!
# Load and its score

A load is what the counters of the network interface and the processor read over one period. Four of
its counters are folded into one score, a weighted sum with a bias, and profiles are scored by the
same sum over the load they were recorded under.
-/

namespace NetworkTuning

/-- One reading of the load. -/
structure Load where
  transferRate : UInt64 := 0
  dropRate : UInt64 := 0
  errorRate : UInt64 := 0
  fifoErrorRate : UInt64 := 0
  cpuUsage : Float := 0.0
  deriving Inhabited

/-- A load is idle when each of its network counters is zero. -/
def Load.isIdle (l : Load) : Bool :=
  l.transferRate == 0 && l.dropRate == 0 && l.errorRate == 0 && l.fifoErrorRate == 0

/-- The load a profile was recorded under. -/
def Profile.load (p : Profile) : Load where
  transferRate := p.transferRate
  dropRate := p.dropRate
  errorRate := p.errorRate
  fifoErrorRate := p.fifoErrorRate
  cpuUsage := p.cpuUsage

/-- The weight of each counter, and the bias. -/
structure Weights where
  transfer : Float := 1.0
  drop : Float := 0.0
  errors : Float := 0.0
  fifo : Float := 0.0
  bias : Float := 0.0
  deriving Inhabited

/-- The sum of the four weights; the bias does not count. -/
def Weights.sum (w : Weights) : Float := w.transfer + w.drop + w.errors + w.fifo

/-- The weighted sum of four counters, added up from the left, the bias last. -/
def Weights.score (w : Weights) (transfer drop errors fifo : UInt64) : Float :=
  transfer.toFloat * w.transfer + drop.toFloat * w.drop + errors.toFloat * w.errors +
    fifo.toFloat * w.fifo + w.bias

/-- The score of a load. -/
def Load.score (l : Load) (w : Weights) : Float :=
  w.score l.transferRate l.dropRate l.errorRate l.fifoErrorRate

/-- The score of a profile. -/
def Profile.score (p : Profile) (w : Weights) : Float :=
  w.score p.transferRate p.dropRate p.errorRate p.fifoErrorRate

end NetworkTuning
