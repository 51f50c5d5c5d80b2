import NetworkTuning.Event
import NetworkTuning.Inference.Controller
import NetworkTuning.Session.Plugin
import NetworkTuning.Statistics.Sampling
import NetworkTuning.Settings.Load

/-!
# Sessions

A session is opened on a settings file and a table file, either of which may be at fault. While it
runs it takes commands: to read the settings again, which on a failure keeps the ones in effect, to
report, and to shut down, after which it takes no command any more. A training session ends with a
snapshot beside the table file. Nothing is ever written to the table file itself.
-/

namespace NetworkTuning

/-- What a session is opened with. -/
structure SessionConfig where
  mode : Mode := .training
  tablePath : String := "table.csv"
  settingsPath : String := "settings.json"
  interface : String := "eth0"
  /-- Whether settings are applied, not only shown. -/
  apply : Bool := false
  /-- Whether profiles that lower settings are refused. -/
  upgradeOnly : Bool := false
  statisticsRoot : String := "net"
  processorFile : String := "proc/stat"
  kernelRoot : String := "proc/sys"
  environment : List (String × String) := []
  deriving Repr, DecidableEq, Inhabited

/-- Why a session cannot be opened. -/
inductive SessionError where
  | settings (path : String) (cause : Settings.LoadError)
  | table (path : String) (cause : TableFileError)
  | plugin (cause : PluginError)
  deriving Inhabited

/-- What went wrong, the outermost first. -/
def SessionError.chain : SessionError → List String
  | settings path cause => ("Failed to load settings from " ++ path) :: cause.chain
  | table path cause => ("Failed to load table from " ++ path) :: cause.chain
  | plugin cause => cause.chain

/-- The applier of a session together with the shell it uses. -/
abbrev SessionApplier := Applier × Shell

/-- Hands a profile to the applier of a session. -/
def SessionApplier.handler (interface : String) : Inference.Handler SessionApplier :=
  fun p (applier, shell) =>
    let (applier, shell, outcome) := applier.apply shell interface p
    (.ok outcome, (applier, shell))

/-- A session: its searches with all they share, its samplers, its live training, and whether it has
been told to stop. -/
structure Session where
  config : SessionConfig
  search : Inference.State SessionApplier
  interfaceSampler : Sampler
  processorSampler : Sampler
  live : Training.Live := {}
  stopping : Bool := false

namespace Session

/-- What the loops of the session share. -/
def shared (s : Session) : Shared := s.search.shared

/-- The session with something else shared. -/
def withShared (s : Session) (shared : Shared) : Session :=
  { s with search := { s.search with shared } }

/-- The health that the session reports to. -/
def health (s : Session) : Health := s.search.health.getD {}

/-- The session with a different health. -/
def withHealth (s : Session) (health : Health) : Session :=
  { s with search := { s.search with health := some health } }

/-- The applier that a session is opened with. -/
def openingApplier (config : SessionConfig) (files : FileTree) : Applier where
  dryRun := !config.apply
  baseline := if config.upgradeOnly then some (settingsInForce files config.kernelRoot) else none

/-- Opens a session on settings and a table that are loaded already. -/
def withParts (config : SessionConfig) (settings : Settings) (table : Table) (files : FileTree)
    (shell : Shell) (health : Health) : Except SessionError Session := do
  let shared := Shared.recordSize { settings, table, files }
  let directory := counterDirectory config.statisticsRoot config.interface
  let (_, interfaceSampler, processorSampler) ←
    (setUpPlugins 1 directory config.processorFile shared).mapError SessionError.plugin
  return {
    config
    search :=
      { controller := { applier := (openingApplier config files, shell) }
        shared
        health := some (health.setHealthy tablePart) }
    interfaceSampler
    processorSampler }

/-- Opens a session: reads the settings, then the table. -/
def openOn (config : SessionConfig) (files : FileTree) (shell : Shell) (health : Health) :
    Except SessionError Session := do
  let settings ← (Settings.load files config.environment config.settingsPath).mapError
    (SessionError.settings config.settingsPath)
  let table ← (TableFile.load files config.tablePath settings.learning.toUInt64).mapError
    (SessionError.table config.tablePath)
  withParts config settings table files shell health

/-- The session's plugin. -/
def plugin (s : Session) : NetworkPlugin := ⟨some s.shared, s.search.controller.counters⟩

/-- The session's report. -/
def report (s : Session) : SessionReport where
  mode := s.config.mode
  interface := s.config.interface
  labels := s.shared.settings.labels
  plugins := [s.plugin.report]

/-- Reads the settings again; on a failure those in effect stay. -/
def reload (s : Session) : Session × Except Settings.LoadError Unit :=
  match Settings.load s.shared.files s.config.environment s.config.settingsPath with
  | .ok settings => (s.withShared { s.shared with settings }, .ok ())
  | .error cause => (s, .error cause)

/-- What went wrong in reading the settings again, the outermost first. -/
def reloadChain (cause : Settings.LoadError) : List String :=
  "Settings reload failed" :: cause.chain

/-- Takes a command, unless the session has been told to stop. -/
def receive (c : SessionCommand) (s : Session) : Session :=
  if s.stopping then s
  else
    match c with
    | .reloadSettings => s.reload.1
    | .report => s
    | .shutdown => { s with stopping := true }

/-- Something happens from outside. -/
def happen (e : Event) (s : Session) : Session :=
  let s := s.withShared (e.apply s.shared)
  match e.command with
  | some c => s.receive c
  | none => s

/-- The file of the session's snapshots. -/
def snapshotPath (s : Session) : String := TableFile.snapshotPath s.config.tablePath

/-- One tick of the loop that the mode calls for, `elapsed` after the one before. -/
def control (elapsed : Nanoseconds) (s : Session) : Session :=
  match s.config.mode with
  | .training => s
  | .liveTraining =>
    let (live, shared) := s.live.tick s.snapshotPath s.shared
    { s.withShared shared with live }
  | .inference =>
    let (_, search) := s.search.evaluate (SessionApplier.handler s.config.interface)
      s.shared.readings.load elapsed
    { s with search }

/-- What a sampler's turn leaves of the session. -/
def afterTurn (s : Session) (readings : Readings) (metrics : Metrics) (health : Option Health) :
    Session :=
  { s with search := { s.search with shared := { s.shared with readings, metrics }, health } }

/-- One turn of the interface's sampler. -/
def sampleInterface (now : Nanoseconds) (s : Session) : Session :=
  let (interfaceSampler, readings, metrics, health) :=
    s.interfaceSampler.turn s.shared.files now s.shared.readings s.shared.metrics s.search.health
  { s.afterTurn readings metrics health with interfaceSampler }

/-- One turn of the processors' sampler. -/
def sampleProcessors (now : Nanoseconds) (s : Session) : Session :=
  let (processorSampler, readings, metrics, health) :=
    s.processorSampler.turn s.shared.files now s.shared.readings s.shared.metrics s.search.health
  { s.afterTurn readings metrics health with processorSampler }

/-- Whether the session's work is done. -/
def ended (s : Session) : Bool := s.stopping || s.live.ended

/-- The loops of a session: the one that the mode calls for, then the samplers. -/
def schedule : Schedule Session Event where
  fire := fun index f s =>
    match index with
    | 0 => s.control f.elapsed
    | 1 => s.sampleInterface f.now
    | _ => s.sampleProcessors f.now
  happen := happen
  ended := ended

/-- The first instants of the loops. Live training looks at the load at once, inference after one
period, and the samplers take their first reading at once. -/
def tickers (s : Session) : List Ticker :=
  let settings := s.shared.settings
  let sampling := Sampler.ticker settings.statsPeriod
  let controlling :=
    match s.config.mode with
    | .inference => Inference.ticker settings
    | _ => Training.Live.ticker settings
  [controlling, sampling, sampling]

/-- The end of a session whose work came to `training`: a training session writes a last snapshot.
-/
def close (training : Option Training.Summary) (s : Session) : Session × SessionSummary :=
  let entries := s.shared.table.size
  match s.config.mode with
  | .inference => (s, { mode := .inference, training, entries })
  | mode =>
    let (shared, snapshotRows) := s.shared.saveSnapshot s.snapshotPath s.shared.table.rows.toList
    (s.withShared shared, { mode, training, entries, snapshotRows })

/-- What was carried out of a script, the session after it, and how it ended. -/
structure Transcript where
  carried : List (Nanoseconds × Event × Session)
  last : Session
  summary : SessionSummary

/-- Runs a session. Training on drawn keys is over before anything can happen from outside. -/
def run (streams : List Random.Draws) (script : List (Nanoseconds × Event)) (s : Session) :
    Transcript :=
  match s.config.mode with
  | .training =>
    let (training, shared) := Training.run s.snapshotPath s.stopping streams s.shared
    let (last, summary) := (s.withShared shared).close (some training)
    ⟨[], last, summary⟩
  | mode =>
    let (carried, last) := schedule.play script s.tickers s
    let training := if mode = .liveTraining then some (last.live.close last.shared) else none
    let (last, summary) := last.close training
    ⟨carried, last, summary⟩

end Session

end NetworkTuning
