import NetworkTuning.Command.Applier
import NetworkTuning.Health
import NetworkTuning.Json.Reader
import NetworkTuning.Session.Basic
import NetworkTuning.Wire.Record

/-!
# Reports in data documents

How reports, summaries, outcomes and health are written as data documents, and how they are read
back.
-/

namespace NetworkTuning

/-- A count as a number. -/
def Json.ofNat (n : Nat) : Json := .int n

/-- A word that may be absent. -/
def Json.ofMark (n : Option UInt64) : Json := .ofOption (fun m => .int m.toNat) n

namespace Labels

/-- The labels that there are. -/
def toJson (l : Labels) : Json :=
  .ofMembers [("geography", l.geography.map fun g => .text g.name),
    ("business", l.business.map fun b => .text b.name),
    ("optimize_for", l.goal.map fun g => .text g.name)]

/-- The labels that a document holds, each of which may be absent. -/
def ofJson? (x : Json) : Option Labels := do
  match ← x.fields? ["geography", "business", "optimize_for"] with
  | [geography, business, goal] =>
    let geography ← geography.withDefault? none (Json.nullable? (Json.named? Geography.named))
    let business ← business.withDefault? none (Json.nullable? (Json.named? Business.named))
    let goal ← goal.withDefault? none (Json.nullable? (Json.named? Goal.named))
    some { geography, business, goal }
  | _ => none

end Labels

namespace Mode

/-- A mode by its name. -/
def toJson (m : Mode) : Json := .text m.name

/-- The mode that a document names. -/
def ofJson? : Json → Option Mode := Json.named? named

end Mode

namespace Watermarks

/-- The marks as an object. -/
def toJson (w : Watermarks) : Json :=
  .object [("min_transfer_rate", .ofMark w.least), ("max_transfer_rate", .ofMark w.most)]

/-- The marks that a document holds. -/
def ofJson? (x : Json) : Option Watermarks := do
  match ← x.fields? ["min_transfer_rate", "max_transfer_rate"] with
  | [least, most] =>
    let least ← least.optional? Json.word64?
    let most ← most.optional? Json.word64?
    some { least, most }
  | _ => none

end Watermarks

namespace Inference.Report

/-- A report of searches as an object. -/
def toJson (r : Report) : Json :=
  .object [("loops", .ofNat r.loops), ("matches", .ofNat r.hits),
    ("success_rate", .ofFloat r.successRate), ("min_transfer_rate", .ofMark r.least),
    ("max_transfer_rate", .ofMark r.most)]

/-- The report of searches that a document holds. -/
def ofJson? (x : Json) : Option Report := do
  match ← x.fields? ["loops", "matches", "success_rate", "min_transfer_rate",
    "max_transfer_rate"] with
  | [loops, hits, successRate, least, most] =>
    let loops ← loops.required? Json.count?
    let hits ← hits.required? Json.count?
    let successRate ← successRate.required? Json.real?
    let least ← least.optional? Json.word64?
    let most ← most.optional? Json.word64?
    some { loops, hits, successRate, least, most }
  | _ => none

end Inference.Report

namespace PluginReport

/-- A plugin's report as an object. -/
def toJson (r : PluginReport) : Json :=
  .ofMembers [("name", some (.text r.name)), ("version", some (.text r.version)),
    ("entries", some (.ofNat r.entries)), ("capacity", some (.ofNat r.capacity)),
    ("inference", r.inference.map Inference.Report.toJson)]

/-- The plugin's report that a document holds. -/
def ofJson? (x : Json) : Option PluginReport := do
  match ← x.fields? ["name", "version", "entries", "capacity", "inference"] with
  | [name, version, entries, capacity, inference] =>
    let name ← name.required? Json.text?
    let version ← version.required? Json.text?
    let entries ← entries.required? Json.count?
    let capacity ← capacity.required? Json.count?
    let inference ← inference.optional? Inference.Report.ofJson?
    some { name, version, entries, capacity, inference }
  | _ => none

end PluginReport

namespace SessionReport

/-- A session's report as an object. -/
def toJson (r : SessionReport) : Json :=
  .object [("mode", r.mode.toJson), ("interface", .text r.interface), ("labels", r.labels.toJson),
    ("plugins", .list (r.plugins.map PluginReport.toJson))]

/-- The session's report that a document holds. -/
def ofJson? (x : Json) : Option SessionReport := do
  match ← x.fields? ["mode", "interface", "labels", "plugins"] with
  | [mode, interface, labels, plugins] =>
    let mode ← mode.required? Mode.ofJson?
    let interface ← interface.required? Json.text?
    let labels ← labels.required? Labels.ofJson?
    let plugins ← plugins.required? (Json.list? PluginReport.ofJson?)
    some { mode, interface, labels, plugins }
  | _ => none

end SessionReport

/-- A training summary as an object. -/
def Training.Summary.toJson (s : Training.Summary) : Json :=
  .object [("inserted", .ofNat s.inserted), ("duplicates", .ofNat s.duplicates),
    ("misses", .ofNat s.misses), ("entries", .ofNat s.entries), ("full", .bool s.full),
    ("stalled", .bool s.stalled)]

/-- A session's summary as an object. -/
def SessionSummary.toJson (s : SessionSummary) : Json :=
  .object [("mode", s.mode.toJson), ("training", .ofOption Training.Summary.toJson s.training),
    ("entries", .ofNat s.entries), ("snapshot_rows", .ofOption Json.ofNat s.snapshotRows)]

namespace Outcome

/-- An outcome as an object that says which kind it is. -/
def toJson : Outcome → Json
  | executed commands failed =>
    .object [("kind", .text "executed"), ("commands", .ofNat commands), ("failed", .ofNat failed)]
  | dryRun commands => .object [("kind", .text "dry_run"), ("commands", .ofNat commands)]
  | refused reason => .object [("kind", .text "refused"), ("reason", .text reason)]

/-- The outcome of a kind whose fields a document holds. -/
def ofFields? (kind : String) (x : Json) : Option Outcome :=
  if kind = "executed" then do
    match ← x.fields? ["commands", "failed"] with
    | [commands, failed] =>
      some (executed (← commands.required? Json.count?) (← failed.required? Json.count?))
    | _ => none
  else if kind = "dry_run" then do
    match ← x.fields? ["commands"] with
    | [commands] => some (dryRun (← commands.required? Json.count?))
    | _ => none
  else if kind = "refused" then do
    match ← x.fields? ["reason"] with
    | [reason] => some (refused (← reason.required? Json.text?))
    | _ => none
  else none

/-- The outcome that a document holds: an object with its kind, or a list that begins with it. What
an object holds counts once its kind is known, so all of it must be sound. -/
def ofJson? : Json → Option Outcome
  | .object members =>
    match members.filter fun m => m.1 = "kind" with
    | [(_, .text kind)] =>
      if (Json.object members).isSound Json.levelLimit then
        ofFields? kind (.object (members.filter fun m => m.1 ≠ "kind"))
      else none
    | _ => none
  | .list (.text kind :: rest) => ofFields? kind (.list rest)
  | _ => none

end Outcome

namespace Status

/-- All statuses with their names. -/
def named : List (String × Status) := [healthy, degraded, unhealthy].map fun s => (s.name, s)

/-- A status by its name. -/
def toJson (s : Status) : Json := .text s.name

/-- The status that a document names. -/
def ofJson? : Json → Option Status := Json.named? named

end Status

namespace ComponentHealth

/-- A part's report as an object. -/
def toJson (c : ComponentHealth) : Json :=
  .ofMembers [("status", some c.status.toJson), ("message", c.message.map Json.text),
    ("last_check_timestamp", some (.int c.checkedAt))]

/-- The part's report that a document holds. -/
def ofJson? (x : Json) : Option ComponentHealth := do
  match ← x.fields? ["status", "message", "last_check_timestamp"] with
  | [status, message, checkedAt] =>
    let status ← status.required? Status.ofJson?
    let message ← message.optional? Json.text?
    let checkedAt ← checkedAt.required? Json.signed64?
    some { status, message, checkedAt }
  | _ => none

end ComponentHealth

namespace HealthReport

/-- The parts' reports as an object by name. -/
def componentsToJson (components : List (String × ComponentHealth)) : Json :=
  .object (components.map fun c => (c.1, c.2.toJson))

/-- The parts' reports that a document holds; of reports of one name the last counts. -/
def componentsOfJson? : Json → Option (List (String × ComponentHealth))
  | .object members => do
    let components ← members.mapM fun m => (ComponentHealth.ofJson? m.2).map fun c => (m.1, c)
    some (components.foldl (fun kept c => kept.filter (fun k => k.1 ≠ c.1) ++ [c]) [])
  | _ => none

/-- The overall report as an object. -/
def toJson (r : HealthReport) : Json :=
  .object [("status", r.status.toJson), ("components", componentsToJson r.components)]

/-- The overall report that a document holds. -/
def ofJson? (x : Json) : Option HealthReport := do
  match ← x.fields? ["status", "components"] with
  | [status, components] =>
    let status ← status.required? Status.ofJson?
    let components ← components.required? componentsOfJson?
    some { status, components }
  | _ => none

end HealthReport

/-- Readiness as an object. -/
def Readiness.toJson (r : Readiness) : Json :=
  .ofMembers [("ready", some (.bool r.ready)), ("reason", r.reason.map Json.text)]

end NetworkTuning
