import NetworkTuning.Load.Basic
import NetworkTuning.Settings.Basic

/-!
# Published readings

The samplers publish the rates of the interface and the busy share of the processor; whoever needs
the current load reads what was published last. The lowest and the highest transfer rate seen so far
are kept as marks. A mark that is still at its starting value counts as absent.
-/

namespace NetworkTuning

/-- The lowest and the highest transfer rate, as far as there are any. -/
structure Watermarks where
  least : Option UInt64 := none
  most : Option UInt64 := none
  deriving Repr, DecidableEq, Inhabited

/-- What was published last, and the marks. -/
structure Readings where
  load : Load := {}
  lowMark : UInt64 := 0xFFFFFFFFFFFFFFFF
  highMark : UInt64 := 0
  deriving Inhabited

namespace Readings

/-- Publishes the rates of the interface. -/
def publishRates (r : Readings) (transfer drop errors fifo : UInt64) : Readings :=
  let load := { r.load with
    transferRate := transfer
    dropRate := drop
    errorRate := errors
    fifoErrorRate := fifo }
  if 0 < transfer then
    { load, lowMark := min r.lowMark transfer, highMark := max r.highMark transfer }
  else { r with load }

/-- Publishes the busy share of the processor. -/
def publishCpu (r : Readings) (share : Float) : Readings :=
  { r with load := { r.load with cpuUsage := share } }

/-- Publishes that nothing is known of the interface. -/
def clearRates (r : Readings) : Readings := r.publishRates 0 0 0 0

/-- The marks. -/
def watermarks (r : Readings) : Watermarks where
  least := if r.lowMark = 0xFFFFFFFFFFFFFFFF then none else some r.lowMark
  most := if r.highMark = 0 then none else some r.highMark

end Readings

/-- An increase over a time as a rate per second, cut to a whole number. -/
def perSecond (increase : UInt64) (elapsed : Nanoseconds) : UInt64 :=
  let seconds := elapsed.toSeconds
  if seconds ≤ 0.0 then 0 else (increase.toFloat / seconds).toUInt64

end NetworkTuning
