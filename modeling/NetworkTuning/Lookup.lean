import NetworkTuning.Command.Basic
import NetworkTuning.Settings.Load
import NetworkTuning.TableFile.Basic
import NetworkTuning.Training.Basic
import NetworkTuning.Wire.Profile

/-!
# Looking up a load in a table file

A lookup searches a table for a load in the way the inference loop does, and lists the commands that
would put the profile it finds in place.
-/

namespace NetworkTuning

/-- What a lookup comes to. -/
structure Lookup where
  target : Target
  result : Match
  profile : Option Profile := none
  commands : List Command := []
  deriving Inhabited

/-- Why a lookup is not possible. -/
inductive LookupError where
  | settings (path : String) (cause : Settings.LoadError)
  | table (path : String) (cause : TableFileError)
  deriving Inhabited

/-- What went wrong, the outermost first. -/
def LookupError.chain : LookupError → List String
  | settings path cause => ("Failed to load settings from " ++ path) :: cause.chain
  | table path cause => ("Failed to read " ++ path) :: cause.chain

namespace Lookup

/-- Looks a load up in a table. -/
def ofTable (t : Table) (s : Settings) (load : Load) (interface : String) : Lookup :=
  let target := Target.ofLoad load s
  let (result, _) := target.search t s.weights {}
  let profile := result.found.bind fun i => t.rows[i]?
  { target, result, profile, commands := (profile.map (Profile.commands interface)).getD [] }

/-- Looks a load up in a table file under a settings file. -/
def ofFiles (files : FileTree) (environment : List (String × String))
    (tablePath settingsPath : String) (load : Load) (interface : String) :
    Except LookupError Lookup := do
  let settings ← (Settings.load files environment settingsPath).mapError
    (LookupError.settings settingsPath)
  let table ← (TableFile.load files tablePath 0).mapError (LookupError.table tablePath)
  return ofTable table settings load interface

/-- A lookup as an object. -/
def toJson (l : Lookup) : Json :=
  let place (i : Option Nat) : Json := .ofOption (fun n => .int n) i
  .object [("score", .ofFloat l.target.score), ("epsilon", .ofFloat l.target.precision),
    ("tolerance", .ofFloat l.target.tolerance), ("matched", place l.result.found),
    ("closest", place l.result.closest), ("profile", .ofOption Profile.toJson l.profile),
    ("commands", .list (l.commands.map fun c => .text c.text))]

end Lookup

end NetworkTuning
