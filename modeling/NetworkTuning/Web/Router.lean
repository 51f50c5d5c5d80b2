import NetworkTuning.Metrics
import NetworkTuning.Json.Printer
import NetworkTuning.Wire.Report

/-!
# Answering requests

An agent answers requests for its health, its readiness, its metrics and its session's report. The
status of an answer says whether all is well: health is refused only when a part is unhealthy,
readiness while the agent is not ready, and a report while there is no session.
-/

namespace NetworkTuning.Web

/-- What an answer carries. -/
inductive Body where
  | empty
  | document (x : Json)
  | page (text : String)
  deriving Inhabited

/-- The answer to a request: its status, the type of what it carries, and that. -/
structure Reply where
  status : Nat
  type : Option String := none
  body : Body := .empty
  deriving Inhabited

/-- A reply that carries a data document. -/
def Reply.ofJson (status : Nat) (x : Json) : Reply := ⟨status, some "application/json", .document x⟩

/-- The text that a body consists of. -/
def Body.text : Body → String
  | empty => ""
  | document x => x.compact
  | page s => s

/-- A metric with its name, what it says, its kind, and its value. -/
structure Metric where
  name : String
  help : String
  kind : String
  value : String
  deriving Repr, DecidableEq, Inhabited

/-- All metrics, by their names in order. -/
def metricsOf (m : Metrics) : List Metric := [
  ⟨"tuner_apply_errors_total", "Commands that failed while applying a profile", "counter",
    toString m.applyErrors⟩,
  ⟨"tuner_current_score", "Weighted score of the last live sample", "gauge",
    Decimal.plain m.currentScore⟩,
  ⟨"tuner_duplicate_keys_total",
    "Insertions rejected because the transfer rate was already present", "counter",
    toString m.duplicateKeys⟩,
  ⟨"tuner_inference_evaluations_total", "Inference ticks that searched the table", "counter",
    toString m.evaluations⟩,
  ⟨"tuner_inference_matches_total", "Inference searches that found a profile", "counter",
    toString m.inferenceMatches⟩,
  ⟨"tuner_insertions_total", "Profiles synthesized and inserted into the table", "counter",
    toString m.insertions⟩,
  ⟨"tuner_search_latency_seconds", "Time spent searching the profile table", "histogram",
    toString m.searches⟩,
  ⟨"tuner_search_misses_total", "Searches that found no profile within tolerance", "counter",
    toString m.searchMisses⟩,
  ⟨"tuner_settings_applied_total", "Profiles handed to the settings applier", "counter",
    toString m.settingsApplied⟩,
  ⟨"tuner_snapshot_errors_total", "Table snapshots that could not be written", "counter",
    toString m.snapshotErrors⟩,
  ⟨"tuner_snapshot_latency_seconds", "Time spent writing a table snapshot", "histogram",
    toString m.snapshots⟩,
  ⟨"tuner_stats_errors_total", "Failed reads of interface or CPU statistics", "counter",
    toString m.statsErrors⟩,
  ⟨"tuner_table_capacity", "Maximum number of profiles the table can hold", "gauge",
    toString m.tableCapacity⟩,
  ⟨"tuner_table_entries", "Number of profiles in the table", "gauge", toString m.tableEntries⟩]

/-- The lines of a metric: what it says, its kind, and its value. Of a histogram the number of
observations is given. -/
def Metric.text (m : Metric) : String :=
  let counted := if m.kind = "histogram" then "_count" else ""
  "# HELP " ++ m.name ++ " " ++ m.help ++ "\n# TYPE " ++ m.name ++ " " ++ m.kind ++ "\n" ++
    m.name ++ counted ++ " " ++ m.value ++ "\n"

/-- The page of all metrics. -/
def metricsPage (m : Metrics) : String := String.join ((metricsOf m).map Metric.text)

/-- What the agent can be asked for. -/
inductive Resource where
  | health
  | readiness
  | metrics
  | report
  deriving Repr, DecidableEq, Inhabited

/-- What stands after the host of a target that begins with a scheme, two slashes and a host. -/
def afterHost? (target : List Char) : Option (List Char) :=
  let inScheme (c : Char) : Bool := c.isAlphanum || c = '+' || c = '-' || c = '.'
  match target.dropWhile inScheme with
  | ':' :: '/' :: '/' :: rest => some (rest.dropWhile fun c => c ≠ '/' ∧ c ≠ '?' ∧ c ≠ '#')
  | _ => none

/-- The path of a target, up to a question or number sign. A target may begin with a scheme and a
host; with nothing after the host its path is the root. -/
def pathOf (target : String) : String :=
  let upToQuery (cs : List Char) : List Char := cs.takeWhile fun c => c ≠ '?' ∧ c ≠ '#'
  match afterHost? target.toList with
  | none => String.ofList (upToQuery target.toList)
  | some rest =>
    let path := upToQuery rest
    if path.isEmpty then "/" else String.ofList path

/-- What stands at a path. -/
def Resource.ofPath? (path : String) : Option Resource :=
  if path = "/healthz" then some health
  else if path = "/readyz" then some readiness
  else if path = "/metrics" then some metrics
  else if path = "/report" then some report
  else none

/-- What an agent answers from. -/
structure Agent where
  health : Health := {}
  metrics : Metrics := {}
  report : Option SessionReport := none
  deriving Inhabited

/-- The answer to a request for a resource. -/
def Agent.get (a : Agent) : Resource → Reply
  | .health =>
    let h := a.health.report
    .ofJson (if h.status.isOperational then 200 else 503) h.toJson
  | .readiness =>
    let r := a.health.readiness
    .ofJson (if r.ready then 200 else 503) r.toJson
  | .metrics => ⟨200, some "text/plain; charset=utf-8", .page (metricsPage a.metrics)⟩
  | .report =>
    match a.report with
    | some r => .ofJson 200 r.toJson
    | none => .ofJson 503 (.object [("error", .text "no session running")])

/-- The answer to a request. Resources are only read; asked for its head, a reply comes without its
body. -/
def Agent.respond (a : Agent) (method target : String) : Reply :=
  match Resource.ofPath? (pathOf target) with
  | none => ⟨404, none, .empty⟩
  | some r =>
    if method = "GET" then a.get r
    else if method = "HEAD" then { a.get r with body := .empty }
    else ⟨405, none, .empty⟩

end NetworkTuning.Web
