import NetworkTuning.Settings.Basic

/-!
# Schedules

Loops are due at regular times; between them things happen from outside. The clock moves in whole
milliseconds, so a loop fires at the first millisecond that is not before the time it is due. A run
carries out firings and what happens in the order of time. Of loops that fire at the same instant
the first in the list goes first, and nothing happens from outside at an instant at which a loop
fires. A run stops as soon as its state says that it has ended.
-/

namespace NetworkTuning

/-- The step in which the clock moves. -/
def clockStep : Nanoseconds := 1000000

/-- One firing of a loop: its instant, and the time since the loop fired before, or since the start
of the run. -/
structure Firing where
  now : Nanoseconds
  elapsed : Nanoseconds
  deriving Repr, DecidableEq, Inhabited

/-- The time at which a loop is due, the time from one such time to the next, and the instant at
which the loop fired before. -/
structure Ticker where
  due : Nanoseconds
  period : Nanoseconds
  last : Nanoseconds := 0
  deriving Repr, DecidableEq, Inhabited

namespace Ticker

/-- The instant at which a loop that is due fires. -/
def instant (t : Ticker) : Nanoseconds := (t.due + clockStep - 1) / clockStep * clockStep

/-- The firing of a loop that is due. -/
def firing (t : Ticker) : Firing := ⟨t.instant, t.instant - t.last⟩

/-- The ticker after it has fired. -/
def advance (t : Ticker) : Ticker := { t with due := t.due + t.period, last := t.instant }

/-- How often a ticker is due before an instant. -/
def countBefore (limit : Nanoseconds) (t : Ticker) : Nat :=
  (limit - t.due + t.period - 1) / t.period

/-- The place and the firing of the ticker that fires next. -/
def next? : List Ticker → Option (Nat × Firing)
  | [] => none
  | t :: rest =>
    match next? rest with
    | some (index, f) => if f.now < t.instant then some (index + 1, f) else some (0, t.firing)
    | none => some (0, t.firing)

end Ticker

/-- What the loops of a run do, what happens to it from outside, and when it has ended. -/
structure Schedule (σ ε : Type) where
  /-- The loop of a place fires. -/
  fire : Nat → Firing → σ → σ
  /-- Something happens from outside. -/
  happen : ε → σ → σ
  ended : σ → Bool

namespace Schedule

variable {σ ε : Type}

/-- Fires the loops that fire before an instant, at most `fuel` times. -/
def fireBefore (c : Schedule σ ε) (limit : Nanoseconds) :
    Nat → List Ticker → σ → List Ticker × σ
  | 0, tickers, s => (tickers, s)
  | fuel + 1, tickers, s =>
    if c.ended s then (tickers, s)
    else
      match Ticker.next? tickers with
      | none => (tickers, s)
      | some (index, f) =>
        if f.now < limit then
          c.fireBefore limit fuel (tickers.modify index Ticker.advance) (c.fire index f s)
        else (tickers, s)

/-- Fires all loops that fire before an instant. -/
def runBefore (c : Schedule σ ε) (limit : Nanoseconds) (tickers : List Ticker) (s : σ) :
    List Ticker × σ :=
  c.fireBefore limit ((tickers.map (Ticker.countBefore limit)).foldl Nat.add 0) tickers s

/-- How many periods a run is given to end by itself after the last thing has happened. -/
def lastPeriods : Nat := 64

/-- The instant up to which a run is followed after the last thing has happened. -/
def horizon (tickers : List Ticker) : Nanoseconds :=
  (tickers.map fun t => t.due + lastPeriods * t.period).foldl max 0

/-- Carries out what happens, each thing at its instant, and the loops in between. The result pairs
each thing that was carried out with the state after it, and ends with the last state. -/
def play (c : Schedule σ ε) :
    List (Nanoseconds × ε) → List Ticker → σ → List (Nanoseconds × ε × σ) × σ
  | [], tickers, s => ([], (c.runBefore (horizon tickers) tickers s).2)
  | (instant, e) :: rest, tickers, s =>
    let (tickers, s) := c.runBefore instant tickers s
    if c.ended s then ([], s)
    else
      let s := c.happen e s
      let (carried, last) := c.play rest tickers s
      ((instant, e, s) :: carried, last)

end Schedule

end NetworkTuning
