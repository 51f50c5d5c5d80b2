import NetworkTuning.Inference.Basic
import NetworkTuning.Settings.Labels
import NetworkTuning.Text.Quoted
import NetworkTuning.Training.Basic

/-!
# Modes and reports of a session

A session either trains on drawn keys, trains on the live load, or applies what it finds for the
live load. While it runs it can be asked for a report, and it ends with a summary.
-/

namespace NetworkTuning

/-- What a session does. -/
inductive Mode where
  | training
  | liveTraining
  | inference
  deriving Repr, DecidableEq, Inhabited

namespace Mode

/-- The name of a mode. -/
def name : Mode → String
  | training => "training"
  | liveTraining => "live-training"
  | inference => "inference"

/-- All modes with their names. -/
def named : List (String × Mode) :=
  [training, liveTraining, inference].map fun m => (m.name, m)

/-- The mode of a name. -/
def ofName? (s : String) : Option Mode := (named.find? fun n => n.1 = s).map Prod.snd

/-- What is said of a text that names no mode. -/
def unknownMessage (s : String) : String :=
  "unknown mode " ++ Text.quoted s ++ ", expected training, live-training or inference"

end Mode

/-- What a plugin reports. -/
structure PluginReport where
  name : String
  version : String
  entries : Nat
  capacity : Nat
  inference : Option Inference.Report := none
  deriving Inhabited

/-- What a session reports. -/
structure SessionReport where
  mode : Mode
  interface : String
  labels : Labels := {}
  plugins : List PluginReport := []
  deriving Inhabited

/-- How a session ended. -/
structure SessionSummary where
  mode : Mode
  training : Option Training.Summary := none
  entries : Nat := 0
  /-- The rows of the last snapshot, if one was written. -/
  snapshotRows : Option Nat := none
  deriving Repr, DecidableEq, Inhabited

end NetworkTuning
