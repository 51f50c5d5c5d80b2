import NetworkTuning.Console.Grid
import NetworkTuning.Json.Printer
import NetworkTuning.Lookup
import NetworkTuning.Session.Basic
import NetworkTuning.Wire.Profile
import NetworkTuning.Wire.Report

/-!
# Pages for the terminal

A page shows profiles, a lookup, a session's report or the health of an agent, as text for a reader
or as a data document.
-/

namespace NetworkTuning.Console

/-- How a page is shown. -/
structure Look where
  asDocument : Bool := false
  coloured : Bool := false
  deriving Repr, DecidableEq, Inhabited

/-- A data document as a page. -/
def document (x : Json) : String := line (x.pretty 0)

/-- The headings of a grid of profiles. -/
def profileHeadings : List String :=
  ["#", "Transfer rate", "Drop", "Errors", "FIFO", "RX ring", "TX ring", "somaxconn", "Backlog",
    "Budget"]

/-- The cells of a profile that stands at an index. -/
def profileCells (index : Nat) (p : Profile) : List String :=
  [toString index, rate p.transferRate, Column.dropRate.render p, Column.errorRate.render p,
    Column.fifoErrorRate.render p, Column.rxRing.render p, Column.txRing.render p,
    Column.somaxconn.render p, Column.netdevMaxBacklog.render p, Column.netdevBudget.render p]

/-- The smallest and the largest key of some profiles. -/
def keyRange? : List Profile → Option (UInt64 × UInt64)
  | [] => none
  | p :: rest => some (rest.foldl (fun r q => (min r.1 q.key, max r.2 q.key)) (p.key, p.key))

/-- The first profiles of a table file, as many as `limit` allows. -/
def profiles (look : Look) (limit : Option Nat) (all : List Profile) : String :=
  let shown := all.take (limit.getD all.length)
  if look.asDocument then document (.list (shown.map Profile.toJson))
  else
    let numbered := shown.zipIdx.map fun (p, index) => profileCells index p
    grid look.coloured profileHeadings numbered ++
      match keyRange? all with
      | none => ""
      | some (least, most) =>
        info look.coloured
          (toString shown.length ++ " of " ++ toString all.length ++ " profiles, transfer rate " ++
            rate least ++ " .. " ++ rate most)

/-- What a lookup found. -/
def found (look : Look) (l : Lookup) : String :=
  match l.profile, l.result.found with
  | some p, some index =>
    success look.coloured (s!"Matched entry {index} at " ++ rate p.transferRate) ++
      grid look.coloured profileHeadings [profileCells index p] ++ line "" ++
      line (headline look.coloured "Commands") ++
      String.join (l.commands.map fun c =>
        line ("  " ++ paint look.coloured ⟨some .cyan, false⟩ c.text))
  | _, _ =>
    match l.result.closest with
    | some index =>
      warning look.coloured s!"No entry within tolerance, closest visited entry is {index}"
    | none => warning look.coloured "No entry within tolerance, table is empty"

/-- A lookup. -/
def lookup (look : Look) (l : Lookup) : String :=
  if look.asDocument then document l.toJson
  else
    line (headline look.coloured "Lookup") ++ ruler ++
      line ("Score:        " ++ Decimal.fixed 2 l.target.score) ++
      line ("Epsilon:      " ++ Decimal.plain l.target.precision) ++
      line ("Tolerance:    " ++ Decimal.fixed 2 l.target.tolerance) ++ line "" ++ found look l

/-- The headings of a grid of plugins. -/
def pluginHeadings : List String :=
  ["Plugin", "Version", "Entries", "Searches", "Matches", "Success", "Min rate", "Max rate"]

/-- The cells of a plugin; what is not known of it is a dash. -/
def pluginCells (coloured : Bool) (p : PluginReport) : List String :=
  let known (show_ : Inference.Report → String) : String := (p.inference.map show_).getD "-"
  [p.name, p.version, s!"{p.entries}/{p.capacity}", known fun r => toString r.loops,
    known fun r => toString r.hits, known fun r => successRate coloured r.successRate,
    rateOrDash (p.inference.bind fun r => r.least), rateOrDash (p.inference.bind fun r => r.most)]

/-- A goal as a page shows it. -/
def goalName : Goal → String
  | .throughput => "Throughput"
  | .latency => "Latency"
  | .power => "Power"

/-- A session's report. -/
def report (look : Look) (r : SessionReport) : String :=
  if look.asDocument then document r.toJson
  else
    let cyan := paint look.coloured ⟨some .cyan, false⟩
    line (headline look.coloured "Session Report") ++ ruler ++
      line ("Mode:         " ++ cyan r.mode.name) ++ line ("Interface:    " ++ cyan r.interface) ++
      (match r.labels.goal with
        | some g => line ("Optimize for: " ++ goalName g)
        | none => "") ++
      line "" ++ grid look.coloured pluginHeadings (r.plugins.map (pluginCells look.coloured))

/-- The health of an agent, its parts in the order of their names. -/
def health (look : Look) (h : HealthReport) : String :=
  if look.asDocument then document h.toJson
  else
    let parts := h.components.mergeSort fun a b => !(b.1 < a.1)
    line (headline look.coloured "Agent:" ++ " " ++ status look.coloured h.status.name) ++
      grid look.coloured ["Component", "Status", "Message"]
        (parts.map fun c => [c.1, status look.coloured c.2.status.name, c.2.message.getD ""])

/-- A cause after its head; the lines it goes on with stand behind a margin as wide as the head. -/
def cause (head text : String) : String :=
  let margin := String.ofList (List.replicate head.length ' ')
  line (head ++ ("\n" ++ margin).intercalate (text.splitOn "\n"))

/-- A failure with its causes, each on lines of its own; of several causes each has its number. -/
def failure : List String → String
  | [] => ""
  | outermost :: causes =>
    line ("Error: " ++ outermost) ++
      match causes with
      | [] => ""
      | [only] => line "" ++ line "Caused by:" ++ cause "    " only
      | causes =>
        line "" ++ line "Caused by:" ++
          String.join (causes.zipIdx.map fun (text, index) =>
            let number := toString index
            cause (String.ofList (List.replicate (5 - number.length) ' ') ++ number ++ ": ") text)

end NetworkTuning.Console
