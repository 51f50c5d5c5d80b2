import NetworkTuning.Session.Basic
import NetworkTuning.Statistics.Source
import NetworkTuning.Training.Live
import NetworkTuning.Training.Worker

/-!
# The network plugin

The plugin tunes one interface. Before it is set up it has nothing to work on and refuses all work;
a session has at least one plugin, and each must be set up.
-/

namespace NetworkTuning

/-- Why a plugin cannot be set up or cannot work. -/
inductive PluginError where
  | notSetUp
  | noneRegistered
  /-- Setting up failed. -/
  | setUpFailed (reason : String)
  deriving Repr, DecidableEq, Inhabited

/-- The name of the network plugin. -/
def networkPluginName : String := "network"

/-- What went wrong, the outermost first. -/
def PluginError.chain : PluginError → List String
  | notSetUp => ["Network plugin used before init"]
  | noneRegistered => ["No plugins were registered"]
  | setUpFailed reason => ["Failed to initialize plugin " ++ networkPluginName, reason]

/-- The plugin: what it shares with the session once it is set up, and its searches. -/
structure NetworkPlugin where
  shared : Option Shared := none
  counters : Inference.Counters := {}
  deriving Inhabited

namespace NetworkPlugin

/-- The version of the plugin. -/
def version : String := "0.1"

/-- What the plugin works on. -/
def work (p : NetworkPlugin) : Except PluginError Shared :=
  match p.shared with
  | some s => .ok s
  | none => .error .notSetUp

/-- Trains on drawn keys, with one worker for each stream of draws. -/
def train (p : NetworkPlugin) (path : String) (streams : List Random.Draws) :
    Except PluginError (Training.Summary × Shared) := do
  return Training.run path false streams (← p.work)

/-- Trains on the live load, told to stop before the first reading that is not idle. -/
def liveTrainStopped (p : NetworkPlugin) : Except PluginError Training.Summary := do
  return Training.Live.close {} (← p.work)

/-- The searches for the live load, told to stop before the first reading. -/
def inferStopped (p : NetworkPlugin) : Except PluginError Inference.Counters := do
  let _ ← p.work
  return p.counters

/-- The plugin's report; before it is set up there is no table to report on. -/
def report (p : NetworkPlugin) : PluginReport where
  name := networkPluginName
  version := version
  entries := (p.shared.map fun s => s.table.size).getD 0
  capacity := (p.shared.map fun s => s.table.capacity).getD 0
  inference := some (p.counters.report ((p.shared.map fun s => s.readings.watermarks).getD {}))

/-- The samplers that the plugin starts when it is set up, of the interface and of the processors.
-/
def samplers (directory processorFile : String) (s : Shared) :
    Except PluginError (Sampler × Sampler) := do
  let build (source : Source) : Except PluginError Sampler :=
    (Sampler.build (some source) (some s.readings) s.settings.statsPeriod).mapError .setUpFailed
  let interface ← build (.interface directory none)
  let processors ← build (.processors processorFile none)
  return (interface, processors)

end NetworkPlugin

/-- Sets up the plugins of a session, of which there is at least one. -/
def setUpPlugins (count : Nat) (directory processorFile : String) (s : Shared) :
    Except PluginError (NetworkPlugin × Sampler × Sampler) := do
  if count = 0 then .error .noneRegistered
  let (interface, processors) ← NetworkPlugin.samplers directory processorFile s
  return ({ shared := some s }, interface, processors)

end NetworkTuning
