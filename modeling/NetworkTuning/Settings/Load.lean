import NetworkTuning.FileTree.Path
import NetworkTuning.FileTree.Basic
import NetworkTuning.Json.Reader
import NetworkTuning.Settings.Basic
import NetworkTuning.Settings.Entry

/-!
# Loading settings

A settings document is read from text or from a file, with values of the environment over those of
the file. Each section may be written as a table or as the list of its fields in order. A field of
the wrong kind is reported before a field that is absent.
-/

namespace NetworkTuning.Settings

/-- Why settings cannot be loaded. -/
inductive LoadError where
  | fault (f : Fault)
  | invalid (e : SettingsError)
  deriving Inhabited

/-- The wording of a failed load. -/
def LoadError.message : LoadError → String
  | fault f => "failed to load settings: " ++ f.message
  | invalid e => e.message

/-- What went wrong, the outermost first. -/
def LoadError.chain : LoadError → List String
  | fault f => [(fault f).message, f.message]
  | invalid e => [e.message]

/-- A section of a document: its field of a place and name, the key of that field in messages, and
the fault of its absence. -/
structure Section where
  entry? : Nat → String → Option Entry
  key : Nat → String → String
  absent : Nat → String → Fault

/-- A section written as a table or as a list; `count` is the number of its fields. -/
def Section.ofEntry (key expected : String) (count : Nat) (e : Entry) : Except Fault Section :=
  match e with
  | .table _ _ =>
    .ok ⟨fun _ name => e.member? name,
      fun _ name => if key.isEmpty then name else key ++ "." ++ name,
      fun _ name => .missing name⟩
  | .list _ items =>
    .ok ⟨fun index _ => items[index]?,
      fun index _ => s!"{key}[{index}]",
      fun index _ => .tooShort index s!"{expected} with {count} elements"⟩
  | _ => .error (.wrongShape e.describe expected)

/-- A field of a section, read if it is present. -/
def Section.field {α : Type} (s : Section) (index : Nat) (name : String)
    (read : String → Entry → Except Fault α) : Except Fault (Option α) :=
  match s.entry? index name with
  | none => .ok none
  | some e => (read (s.key index name) e).map some

/-- A field that must be present. -/
def Section.require {α : Type} (s : Section) (index : Nat) (name : String) :
    Option α → Except Fault α
  | some a => .ok a
  | none => .error (s.absent index name)

/-- A label by its name, in any case, or by a table of one member of that name. -/
def readLabel {α : Type} (kind : String) (named : List (String × α)) (e : Entry) :
    Except Fault (Option α) :=
  let byName (name : String) : Except Fault (Option α) :=
    match named.find? fun n => fold n.1 = fold name with
    | some (_, a) => .ok (some a)
    | none => .error (.unknownLabel kind name)
  match e with
  | .scalar _ .nothing => .ok none
  | .scalar _ (.text s) => byName s
  | .table _ [(name, _)] => byName name
  | _ => .error (.noLabel kind)

/-- The labels of a document. -/
def readLabels (key : String) (e : Entry) : Except Fault Labels := do
  let s ← Section.ofEntry key "struct Labels" 3 e
  let geography ← s.field 0 "geography" fun _ => readLabel "Geography" Geography.named
  let business ← s.field 1 "business" fun _ => readLabel "Business" Business.named
  let goal ← s.field 2 "optimize_for" fun _ => readLabel "OptimizationGoal" Goal.named
  return ⟨geography.join, business.join, goal.join⟩

/-- The weights of a document. -/
def readWeights (key : String) (e : Entry) : Except Fault Weights := do
  let s ← Section.ofEntry key "struct WeightsDocument" 4 e
  let transfer ← s.field 0 "transfer_rate_weight" Entry.toFloat
  let drop ← s.field 1 "drop_rate_weight" Entry.toFloat
  let errors ← s.field 2 "errors_rate_weight" Entry.toFloat
  let fifo ← s.field 3 "fifo_errors_rate_weight" Entry.toFloat
  return {
    transfer := ← s.require 0 "transfer_rate_weight" transfer
    drop := ← s.require 1 "drop_rate_weight" drop
    errors := ← s.require 2 "errors_rate_weight" errors
    fifo := ← s.require 3 "fifo_errors_rate_weight" fifo
    bias := 0.0 }

/-- The main section of a document, laid into the rest of it. -/
def readMain (key : String) (e : Entry) : Except Fault Document := do
  let s ← Section.ofEntry key "struct AppSettingsDocument" 8 e
  let learning ← s.field 0 "max_learning_values" Entry.toInt
  let savingLoop ← s.field 1 "saving_loop" Entry.toInt
  let accuracy ← s.field 2 "accuracy" Entry.toFloat
  let approximation ← s.field 3 "approx_function" Entry.toInt
  let gracePeriod ← s.field 4 "grace_period" Entry.toInt
  let statsPeriod ← s.field 5 "stats_collection_period" Entry.toFloat
  let inferencePeriod ← s.field 6 "inference_loop_period" Entry.toFloat
  let pluginsPath ← s.field 7 "plugins_path" Entry.toText
  return {
    learning := ← s.require 0 "max_learning_values" learning
    savingLoop := ← s.require 1 "saving_loop" savingLoop
    accuracy := ← s.require 2 "accuracy" accuracy
    approximation := ← s.require 3 "approx_function" approximation
    gracePeriod := gracePeriod.getD 0
    statsPeriod := ← s.require 5 "stats_collection_period" statsPeriod
    inferencePeriod := ← s.require 6 "inference_loop_period" inferencePeriod
    pluginsPath := pluginsPath.getD ""
    weights := {}
    labels := {} }

/-- The document that merged entries make up. -/
def documentOf (root : Entry) : Except Fault Document := do
  let s ← Section.ofEntry "" "struct SettingsDocument" 4 root
  let main ← s.field 0 "app_settings" readMain
  let weights ← s.field 1 "weights" readWeights
  let bias ← s.field 2 "bias" Entry.toFloat
  let labels ← s.field 3 "labels" readLabels
  let main ← s.require 0 "app_settings" main
  let weights ← s.require 1 "weights" weights
  return {
    main with
    weights := { weights with bias := bias.getD 0.0 }
    labels := labels.getD {} }

/-- The entries of a data document under the names they are written under. -/
def entriesOf (source : Option String) (document : String) :
    Except Fault (List (String × Entry)) :=
  match Json.readSound? document with
  | some (.object members) => .ok (Entry.ofMembers source [] members)
  | _ => .error .malformed

/-- Lays entries over others, each at the path its name stands for. -/
def layOver (root : Entry) (entries : List (String × Entry)) : Entry :=
  entries.foldl (fun r e => e.2.assign (some r) (Step.path e.1)) root

/-- The settings that a document's text gives. -/
def ofText (document : String) : Except LoadError Settings := do
  let entries ← (entriesOf none document).mapError .fault
  let d ← (documentOf (layOver (.table none []) entries)).mapError .fault
  (Settings.ofDocument d).mapError .invalid

/-- A value of the environment: a truth value, a whole number, a real number, or text. -/
def environmentScalar (s : String) : Scalar :=
  if fold s = "true" then .flag true
  else if fold s = "false" then .flag false
  else
    match Decimal.signed64? s.toList with
    | some n => .whole n
    | none =>
      match Decimal.float? s.toList with
      | some x => .real x
      | none => .text s

/-- The names of an environment that start with `head`, in any case, without it, and their values.
-/
def namesUnder (head : String) (environment : List (String × String)) : List (String × String) :=
  environment.filterMap fun (name, value) =>
    (Text.after? head.toList (fold name).toList).map fun rest => (String.ofList rest, value)

/-- The entry that a value of the environment stands for. -/
def environmentEntry (value : String) : Entry :=
  .scalar (some "the environment") (environmentScalar value)

/-- The entries that the environment gives, with points for double underscores. -/
def environmentEntries (environment : List (String × String)) : List (String × Entry) :=
  (namesUnder "tuner_" environment).map fun (name, value) =>
    (".".intercalate (name.splitOn "__"), environmentEntry value)

/-- The files that a path may name: the path itself, or the path with `.json` after it. -/
def candidates (path : String) : List String :=
  path :: match Path.split? path with
    | none => []
    | some (before, name) => [String.ofList (before ++ name) ++ ".json"]

/-- The first of the files that a path may name and that is there. -/
def findFile? (files : FileTree) (path : String) : Option String :=
  (candidates path).find? files.isFile

/-- A path as messages show it, without empty parts. -/
def shownPath (path : String) : String :=
  if path.startsWith "/" then path
  else "/".intercalate ((FileTree.names path).filter (· ≠ "."))

/-- A text without the mark of byte order at its start. -/
def withoutMark (text : String) : String :=
  match text.toList with
  | '\uFEFF' :: rest => String.ofList rest
  | _ => text

/-- The settings that a file gives, with the environment over it. -/
def load (files : FileTree) (environment : List (String × String)) (path : String) :
    Except LoadError Settings := do
  let some found := findFile? files path | .error (.fault (.noFile path))
  let text ← (files.readText found).mapError fun cause => .fault (.unreadable cause)
  let entries ← (entriesOf (some (shownPath found)) (withoutMark text)).mapError .fault
  let merged := layOver (layOver (.table none []) entries) (environmentEntries environment)
  let d ← (documentOf merged).mapError .fault
  (Settings.ofDocument d).mapError .invalid

end NetworkTuning.Settings
