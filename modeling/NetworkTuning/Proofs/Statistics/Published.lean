import Mathlib.Data.List.Induction
import NetworkTuning.Statistics.Source

/-!
# What a sampler has published

A sampler ticks again and again, and before each tick any time may pass and any files may change.
The interface's source and the processors' are both meters: they are read, they remember the
reading, and of two readings in a row they publish what came of the time between them (`Meter`).

**One step** (`tick_recalls`): a tick leaves the source with the reading it has taken, and with none
if it could take none; what is published after it is what the last two readings call for. **A run**
keeps that from the first tick on (`after_recalls`), so what is published never spans a tick that
failed (`published_spans_no_failure`).
-/

namespace NetworkTuning.Sampler

/-- One tick: the time that has passed since the tick before, and the files as they stand. -/
structure Tick where
  gap : Nanoseconds
  files : FileTree

/-- A sampler that ticks, with what it publishes to and the time. -/
structure Ticking where
  sampler : Sampler
  readings : Readings
  metrics : Metrics
  now : Nanoseconds

namespace Ticking

/-- One tick. -/
def tick (s : Ticking) (t : Tick) : Ticking :=
  let now := s.now + t.gap
  let (sampler, readings, metrics, _) := s.sampler.tick t.files now s.readings s.metrics
  { sampler, readings, metrics, now }

/-- Any ticks, one after the other. -/
def after (s : Ticking) (ticks : List Tick) : Ticking := ticks.foldl tick s

theorem after_concat (s : Ticking) (ticks : List Tick) (t : Tick) :
    s.after (ticks ++ [t]) = (s.after ticks).tick t := by
  simp [after]

end Ticking

/-! ## Two readings in a row -/

variable {α : Type}

/-- The reading of the last tick, if it could be taken. -/
def lastReading (read : FileTree → Except ReadingError α) (ticks : List Tick) : Option α :=
  ticks.getLast?.bind fun t => (read t.files).toOption

/-- The readings of the last two ticks, the earlier one first, and the time between them, if both
could be taken. -/
def lastTwo (read : FileTree → Except ReadingError α) (ticks : List Tick) :
    Option (α × α × Nanoseconds) :=
  ticks.getLast?.bind fun this =>
    (lastReading read ticks.dropLast).bind fun before =>
      (read this.files).toOption.map fun current => (before, current, this.gap)

theorem lastReading_concat (read : FileTree → Except ReadingError α) (ticks : List Tick)
    (t : Tick) : lastReading read (ticks ++ [t]) = (read t.files).toOption := by
  simp [lastReading]

theorem lastTwo_concat (read : FileTree → Except ReadingError α) (ticks : List Tick) (t : Tick) :
    lastTwo read (ticks ++ [t]) =
      (lastReading read ticks).bind fun before =>
        (read t.files).toOption.map fun current => (before, current, t.gap) := by
  simp [lastTwo]

theorem lastTwo_eq_none {read : FileTree → Except ReadingError α} {ticks : List Tick}
    (none : lastReading read ticks = none) : lastTwo read ticks = .none := by
  rcases List.eq_nil_or_concat ticks with rfl | ⟨past, t, rfl⟩
  · rfl
  · rw [List.concat_eq_append, lastReading_concat] at none
    simp [lastTwo_concat, none]

/-! ## Meters -/

/-- How a source is read and what it publishes: of two readings in a row what came of the time
between them, and of anything less that nothing is known. -/
structure Meter (α : Type) where
  /-- The source with its last reading and the time of it. -/
  source : Option (α × Nanoseconds) → Source
  read : FileTree → Except ReadingError α
  publish : Option (α × α × Nanoseconds) → Readings → Readings
  sample_eq : ∀ previous files now r,
    (source previous).sample files now r = (read files).map fun current =>
      (source (some (current, now)),
        match previous with
        | some (before, at_) => publish (some (before, current, now - at_)) r
        | none => r)
  afterFailure_eq : ∀ previous r, (source previous).afterFailure r = (source none, publish none r)
  /-- What is published takes the place of what was published before. -/
  publish_load : ∀ span other (r later : Readings), later.load = (publish other r).load →
    (publish span later).load = (publish span r).load

theorem publishRates_load (r : Readings) (transfer drop errors fifo : UInt64) :
    (r.publishRates transfer drop errors fifo).load =
      ⟨transfer, drop, errors, fifo, r.load.cpuUsage⟩ := by
  unfold Readings.publishRates
  split <;> rfl

/-- The interface's meter publishes its rates. -/
def Meter.interface (directory : String) : Meter Traffic where
  source := .interface directory
  read files := Traffic.read files directory
  publish span r :=
    match span with
    | some (before, after, gap) =>
      let rates := before.rates after gap
      r.publishRates rates.bytes rates.dropped rates.errors rates.fifoErrors
    | none => r.clearRates
  sample_eq previous files now r := by
    rw [Source.sample]
    cases Traffic.read files directory with
    | error | ok => cases previous <;> rfl
  afterFailure_eq _ _ := rfl
  publish_load span other r later h := by
    cases span <;> cases other <;>
      simp only [Readings.clearRates, publishRates_load] at h ⊢ <;> rw [h]

/-- The processors' meter publishes their busy share. -/
def Meter.processors (path : String) : Meter ProcessorTime where
  source previous := .processors path (previous.map Prod.fst)
  read files := ProcessorTime.read files path
  publish span r :=
    match span with
    | some (before, after, _) => r.publishCpu (before.busyShare after)
    | none => r.publishCpu 0.0
  sample_eq previous files now r := by
    rw [Source.sample]
    cases ProcessorTime.read files path with
    | error | ok => cases previous <;> rfl
  afterFailure_eq _ _ := rfl
  publish_load span other r later h := by
    cases span <;> cases other <;> simp only [Readings.publishCpu] at h ⊢ <;> rw [h]

/-! ## Ticks -/

namespace Ticking

/-- A sampler before its first tick, at some time, with what has been published. -/
def start (source : Source) (r : Readings) (m : Metrics) (now : Nanoseconds) : Ticking where
  sampler := { source }
  readings := r
  metrics := m
  now := now

/-- The source has the reading of the last tick, and what is published is what the last two call
for; nothing else has come to the readings since `fresh`. -/
structure Recalls (meter : Meter α) (fresh : Readings) (ticks : List Tick) (s : Ticking) : Prop
    where
  source : s.sampler.source = meter.source ((lastReading meter.read ticks).map fun x => (x, s.now))
  load : s.readings.load = (meter.publish (lastTwo meter.read ticks) fresh).load

variable {meter : Meter α} {fresh : Readings} {ticks : List Tick} {s : Ticking}

/-- **One step.** A tick keeps what the sampler recalls. -/
theorem tick_recalls (recalls : Recalls meter fresh ticks s) (t : Tick) :
    Recalls meter fresh (ticks ++ [t]) (s.tick t) := by
  have hsample := meter.sample_eq ((lastReading meter.read ticks).map fun x => (x, s.now)) t.files
    (s.now + t.gap) s.readings
  have hfailed := meter.afterFailure_eq ((lastReading meter.read ticks).map fun x => (x, s.now))
    s.readings
  rw [← recalls.source] at hsample hfailed
  have htick : s.tick t = ⟨(s.sampler.tick t.files (s.now + t.gap) s.readings s.metrics).1,
      (s.sampler.tick t.files (s.now + t.gap) s.readings s.metrics).2.1,
      (s.sampler.tick t.files (s.now + t.gap) s.readings s.metrics).2.2.1, s.now + t.gap⟩ := rfl
  rw [htick, Sampler.tick]
  cases hread : meter.read t.files with
  | error e =>
    rw [hread] at hsample
    simp only [hsample, Except.map, hfailed]
    constructor
    · simp [lastReading_concat, hread, Except.toOption]
    · have hnone : lastTwo meter.read (ticks ++ [t]) = none := by
        simp [lastTwo_concat, hread, Except.toOption]
      rw [hnone]
      exact meter.publish_load _ _ _ _ recalls.load
  | ok current =>
    rw [hread] at hsample
    simp only [hsample, Except.map]
    constructor
    · simp [lastReading_concat, hread, Except.toOption]
    · cases hlast : lastReading meter.read ticks with
      | none =>
        have hnone : lastTwo meter.read (ticks ++ [t]) = none := by
          simp [lastTwo_concat, hlast]
        -- nothing is published, and nothing was known before
        rw [hnone, ← lastTwo_eq_none hlast]
        exact recalls.load
      | some before =>
        have htwo : lastTwo meter.read (ticks ++ [t]) = some (before, current, t.gap) := by
          simp [lastTwo_concat, hlast, hread, Except.toOption]
        simp only [Option.map_some, Nat.add_sub_cancel_left, htwo]
        exact meter.publish_load _ _ _ _ recalls.load

/-- **A run** of any ticks keeps it, from readings that say that nothing is known. -/
theorem after_recalls (ticks : List Tick) {r : Readings}
    (unknown : (meter.publish none r).load = r.load) (m : Metrics) (now : Nanoseconds) :
    Recalls meter r ticks ((start (meter.source none) r m now).after ticks) := by
  induction ticks using List.reverseRecOn with
  | nil => exact ⟨rfl, unknown.symm⟩
  | append_singleton past t ih =>
    rw [after_concat]
    exact tick_recalls ih t

end Ticking

/-- **What is published never spans a failure.** However many ticks there have been, whatever the
files were at each of them and however long they were apart: if the last two could both take a
reading, the interface's sampler has published the rates between these two readings over the time
between them, each in its own place, and else that all of them are zero; the share of the processors
is what it was before. In the same way the processors' sampler has published their busy share
between the last two readings, or zero, and has left the rates alone. -/
theorem published_spans_no_failure (directory path : String) (m : Metrics) (now : Nanoseconds)
    (ticks : List Tick) :
    (∀ share : Float,
      ((Ticking.start (.interface directory none) (Readings.publishCpu {} share) m now).after
          ticks).readings.load =
        match lastTwo (fun files => Traffic.read files directory) ticks with
        | some (before, after, gap) =>
          let rates := before.rates after gap
          { transferRate := rates.bytes
            dropRate := rates.dropped
            errorRate := rates.errors
            fifoErrorRate := rates.fifoErrors
            cpuUsage := share }
        | none => { cpuUsage := share }) ∧
    ∀ transfer drop errors fifo : UInt64,
      ((Ticking.start (.processors path none) (Readings.publishRates {} transfer drop errors fifo)
          m now).after ticks).readings.load =
        { transferRate := transfer
          dropRate := drop
          errorRate := errors
          fifoErrorRate := fifo
          cpuUsage :=
            match lastTwo (fun files => ProcessorTime.read files path) ticks with
            | some (before, after, _) => before.busyShare after
            | none => 0.0 } := by
  constructor
  · intro share
    have hunknown : ((Meter.interface directory).publish none
        (Readings.publishCpu {} share)).load = (Readings.publishCpu {} share).load := rfl
    have hload := (Ticking.after_recalls ticks hunknown m now).load
    refine hload.trans ?_
    change (Meter.publish (.interface directory)
      (lastTwo (fun files => Traffic.read files directory) ticks) _).load = _
    cases lastTwo (fun files => Traffic.read files directory) ticks with
    | none => rfl
    | some span => exact publishRates_load ..
  · intro transfer drop errors fifo
    have hstart := publishRates_load {} transfer drop errors fifo
    have hunknown : ((Meter.processors path).publish none
        (Readings.publishRates {} transfer drop errors fifo)).load =
          (Readings.publishRates {} transfer drop errors fifo).load := by
      simp only [Meter.processors, Readings.publishCpu, hstart]
    have hload := (Ticking.after_recalls ticks hunknown m now).load
    refine hload.trans ?_
    change (Meter.publish (.processors path) (lastTwo (fun files => ProcessorTime.read files path)
      ticks) _).load = _
    cases lastTwo (fun files => ProcessorTime.read files path) ticks with
    | none => exact hunknown.trans hstart
    | some span => simp only [Meter.processors, Readings.publishCpu, hstart]

end NetworkTuning.Sampler
