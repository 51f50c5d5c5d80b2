import NetworkTuning.Collection
import NetworkTuning.Tool.Arguments
import NetworkTuning.Web.Client

/-!
# The operator's program

The program shows table files, looks loads up in them, collects table files from the running system,
and asks agents for their report and health. A command line that is not well formed ends it with
code 2, any other failure with code 1 and an account of its causes.
-/

namespace NetworkTuning.Tool

/-- What a run of the program leaves behind. -/
structure Ran where
  code : Nat := 0
  output : String := ""
  messages : String := ""
  files : FileTree
  deriving Inhabited

/-- What the program runs in: files, environment, programs, and the way to agents. -/
structure World where
  files : FileTree := {}
  environment : List (String × String) := []
  shell : Shell := {}
  send : Web.Transport := Web.offline
  coloured : Bool := false

/-- A run of the program: ended, or waiting for the files as they stand after an interval, with what
it leaves behind if it goes no further. -/
inductive Run where
  | ended (r : Ran)
  | waiting (soFar : Ran) (interval : Nanoseconds) (resume : FileTree → Run)
  deriving Inhabited

/-- The end of a run if nothing else changes the files. -/
def Run.settled : Run → Ran
  | .ended r => r
  | .waiting soFar _ resume => (resume soFar.files).settled

/-- The name and the version of the program. -/
def versionLine : String := Console.line "tunerctl 0.1.0"

/-- What the program says about itself when asked for help. -/
def helpText : String := String.join ([
  "CLI for the Network Stack Tuner",
  "",
  "Usage: tunerctl [OPTIONS] <COMMAND>",
  "",
  "Commands:",
  "  table    Inspect a profile table file",
  "  collect  Sample the system into table rows (CSV)",
  "  report   Show the session report of a running agent",
  "  health   Show component health of a running agent",
  "  help     Print this message or the help of the given subcommand(s)",
  "",
  "Options:",
  "      --endpoint <ENDPOINT>  Agent endpoint URL",
  "  -f, --format <FORMAT>      Output format [default: table] [possible values: table, json]",
  "  -h, --help                 Print help",
  "  -V, --version              Print version"].map Console.line)

/-- What is said about a command line that is not well formed. -/
def usageError : String :=
  Console.line "error: invalid command line" ++ Console.line "" ++
    Console.line "For more information, try '--help'."

/-- A run that failed. -/
def Ran.failed (w : World) (chain : List String) : Ran :=
  { code := 1, messages := Console.failure chain, files := w.files }

/-- A run that shows a page, or failed. -/
def Ran.ofPage (w : World) : Except (List String) String → Ran
  | .ok page => { output := page, files := w.files }
  | .error chain => .failed w chain

/-- Shows the rows of a table file. -/
def showTable (files : FileTree) (look : Console.Look) (csv : String) (limit : Option Nat) :
    Except (List String) String :=
  match TableFile.read files csv with
  | .ok profiles => .ok (Console.profiles look limit profiles)
  | .error cause => .error (("Failed to read " ++ csv) :: cause.chain)

/-- The line that ends a collection. -/
def collectedLine (c : Collection) (interface : String) : String :=
  Console.line (s!"Collected {c.rows} rows from " ++ interface ++
    s!" ({c.idle} samples without traffic skipped)")

/-- The duration between samples: a positive number of seconds. -/
def intervalOf? (seconds : Float) : Option Nanoseconds :=
  (Nanoseconds.ofSeconds? seconds).filter fun d => d ≠ 0

/-- What is left behind by a collection: its text, in the file that is to hold it or shown. -/
def Ran.ofCollection (files : FileTree) (output : Option String) (c : Collection) : Ran :=
  match output with
  | none => { output := c.text, files }
  | some path => { files := ((files.write path (.text c.text)).toOption).getD files }

/-- A collection as a run of the program. -/
def Run.ofCourse (interface : String) (interval : Nanoseconds) (output : Option String)
    (files : FileTree) : Collection.Course → Run
  | .waiting c resume =>
    .waiting (.ofCollection files output c) interval fun files =>
      ofCourse interface interval output files (resume files)
  | .ended c (.ok _) =>
    .ended { Ran.ofCollection files output c with messages := collectedLine c interface }
  | .ended c (.error cause) =>
    .ended { Ran.ofCollection files output c with
      code := 1
      messages :=
        Console.failure (("Failed to collect statistics for " ++ interface) :: cause.chain) }

/-- Collects a table file. The output is created before the first reading, and keeps what was
written when a reading fails. -/
def collect (w : World) (interface : String) (count : Nat) (interval : Nanoseconds)
    (output : Option String) (systemRoot processRoot : String) : Run :=
  let collector : Collector := { interface, systemRoot, processRoot }
  match output.mapM fun path => (w.files.write path (.text "")).mapError fun e => (path, e) with
  | .error (path, e) => .ended (.failed w [("Failed to create " ++ path), e.message])
  | .ok created =>
    let files := created.getD w.files
    .ofCourse interface interval output files
      (Collection.course collector w.shell interval files count)

/-- The files that a request looks at. -/
def Request.sources : Request → List String
  | .showTable csv _ => [csv]
  | .lookup csv settings _ _ _ _ _ => csv :: Settings.candidates settings
  | .collect interface _ _ output systemRoot processRoot =>
    output.toList ++ ({ interface, systemRoot, processRoot } : Collector).sources
  | _ => []

/-- The file that a request writes. -/
def Request.product? : Request → Option String
  | .collect _ _ _ output _ _ => output
  | _ => none

/-- Carries out an invocation. Without a count, a collection goes on for as long as it can. -/
def Invocation.run (w : World) (i : Invocation) : Run :=
  let look : Console.Look := { asDocument := i.format = .json, coloured := w.coloured }
  match i.request with
  | .notice .help => .ended { output := helpText, files := w.files }
  | .notice .version => .ended { output := versionLine, files := w.files }
  | .showTable csv limit => .ended (.ofPage w (showTable w.files look csv limit))
  | .lookup csv settings transferRate dropRate errorRate fifoErrorRate interface =>
    let load : Load := { transferRate, dropRate, errorRate, fifoErrorRate }
    .ended (.ofPage w (((Lookup.ofFiles w.files w.environment csv settings load interface).map
      (Console.lookup look)).mapError LookupError.chain))
  | .collect interface count seconds output systemRoot processRoot =>
    match intervalOf? seconds with
    | none => .ended (.failed w ["Invalid interval: " ++ Decimal.plain seconds])
    | some interval =>
      let count := (count.map UInt64.toNat).getD UInt64.size
      collect w interface count interval output systemRoot processRoot
  | .report =>
    .ended (.ofPage w ((Web.reportPage w.send i.endpoint look).mapError Web.QueryError.chain))
  | .health =>
    .ended (.ofPage w ((Web.healthPage w.send i.endpoint look).mapError Web.QueryError.chain))

/-- Runs the program on a command line. -/
def run (w : World) (arguments : List String) : Run :=
  match Invocation.ofArguments? w.environment arguments with
  | some i => i.run w
  | none => .ended { code := 2, messages := usageError, files := w.files }

end NetworkTuning.Tool
