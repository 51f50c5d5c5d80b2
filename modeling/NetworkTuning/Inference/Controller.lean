import NetworkTuning.Event
import NetworkTuning.Health
import NetworkTuning.Inference.Basic

/-!
# The inference loop

At each tick the controller looks at the current load, decides whether to search, and hands the row
it finds to an applier. Applying counts as a change whatever the applier answers. The controller
reads the table and never changes it.
-/

namespace NetworkTuning.Inference

/-- An applier with a state of its own: what it answers to a profile, and its state after that. -/
abbrev Handler (σ : Type) := Profile → σ → Except String Outcome × σ

/-- What one tick comes to. -/
inductive Tick where
  | idle
  | skipped (decision : Decision)
  /-- A row was handed to the applier; an applier that failed gives no outcome. -/
  | applied (index : Nat) (key : UInt64) (outcome : Option Outcome)
  | missed (closest : Option UInt64)
  deriving Inhabited

/-- The controller between two ticks, with the state of its applier. -/
structure Controller (σ : Type) where
  applier : σ
  counters : Counters := {}
  /-- The score of the last applied profile. -/
  baseline : Float := 0.0
  sinceChange : Nanoseconds := 0

/-- A controller, the state it shares with others, and the health it reports to. -/
structure State (σ : Type) where
  controller : Controller σ
  shared : Shared
  health : Option Health := none

namespace State

variable {σ : Type}

/-- Hands a profile to the applier, and counts and reports the answer. -/
def handOver (handle : Handler σ) (p : Profile) (s : State σ) : Option Outcome × State σ :=
  let (answer, applier) := handle p s.controller.applier
  let controller := { s.controller with applier }
  let metrics := s.shared.metrics
  match answer with
  | .ok outcome =>
    (some outcome,
      { controller
        shared :=
          { s.shared with metrics := (metrics.applyFailures outcome.failures).applied }
        health := s.health.map fun h => h.setHealthy applierPart })
  | .error message =>
    (none,
      { controller
        shared := { s.shared with metrics := metrics.applyFailures 1 }
        health := s.health.map fun h => h.setDegraded applierPart message })

/-- Searches for a target, and hands the row over that it finds. -/
def search (handle : Handler σ) (g : Target) (s : State σ) : Tick × State σ :=
  let (result, metrics) :=
    g.search s.shared.table s.shared.settings.weights s.shared.metrics.evaluation
  let rows := s.shared.table.rows
  let c := s.controller
  match result.found.bind fun i => rows[i]?.map fun p => (i, p) with
  | some (index, p) =>
    let searched := { s with
      controller := { c with counters := c.counters.record true }
      shared := { s.shared with metrics := metrics.inferenceMatch } }
    let (outcome, s) := searched.handOver handle p
    (.applied index p.key outcome,
      { s with controller := { s.controller with sinceChange := 0, baseline := g.score } })
  | none =>
    (.missed ((result.closest.bind fun i => rows[i]?).map Profile.key),
      { s with
        controller := { c with counters := c.counters.record false }
        shared := { s.shared with metrics } })

/-- One tick for a load read `elapsed` after the one before. -/
def evaluate (handle : Handler σ) (load : Load) (elapsed : Nanoseconds) (s : State σ) :
    Tick × State σ :=
  let c := { s.controller with sinceChange := s.controller.sinceChange + elapsed }
  let s := { s with controller := c }
  if load.isIdle then (.idle, s)
  else
    let settings := s.shared.settings
    let g := Target.ofLoad load settings
    let s := { s with shared := { s.shared with metrics := s.shared.metrics.score g.score } }
    match decide g.score c.baseline g.tolerance c.sinceChange settings.gracePeriod with
    | .search => s.search handle g
    | other => (.skipped other, s)

/-- The report of the controller's searches. -/
def report (s : State σ) : Report :=
  s.controller.counters.report s.shared.readings.watermarks

/-- An inference loop that runs alone and looks at the load each time it fires. -/
def schedule (handle : Handler σ) : Schedule (Alone (State σ)) Event :=
  Alone.schedule (fun f s => (s.evaluate handle s.shared.readings.load f.elapsed).2)
    (fun e s => { s with shared := e.apply s.shared }) fun _ => false

end State

/-- An inference loop looks at the load after one period and then every period. -/
def ticker (s : Settings) : Ticker := { due := s.inferencePeriod, period := s.inferencePeriod }

end NetworkTuning.Inference
