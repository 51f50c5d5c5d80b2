import NetworkTuning.Decimal.Natural
import NetworkTuning.Decimal.Reading

/-!
# Command lines

A command line consists of options, each with a value, and of words. The value of an option stands
in the same argument or in the next one, which then must not itself look like an option. The options
of the program stand before the word that names a command, those of the command after it. No option
may be given twice. After a lone `--` every argument is a word.

Arguments are read from left to right. Whoever asks for help or for the version gets it if nothing
before is at fault, whatever follows and whatever is missing. Help is also a command; it takes the
names of the commands that it is about.
-/

namespace NetworkTuning.Tool

/-- An option that takes a value: its long name, its letter if it has one, and the values that it
accepts. -/
structure Switch where
  name : String
  letter : Option Char := none
  accepts : List Char → Bool := fun _ => true

instance : Inhabited Switch := ⟨⟨"", none, fun _ => true⟩⟩

/-- What a command line asks for beside its commands. -/
inductive Notice where
  | help
  | version
  deriving Repr, DecidableEq, Inhabited

/-- What may stand on a command line: options, words and what they may be, and whether the version
can be asked for. Where there are names of commands, the first word must be one. -/
structure Form where
  switches : List Switch := []
  words : List (List Char → Bool) := []
  commands : List String := []
  versioned : Bool := false

/-- Options with their values and words in the order given, an option whose value has yet to be
looked at, what is asked for if anything, and the arguments that are left. -/
structure Given where
  values : List (String × String) := []
  pending : Option (Switch × String) := none
  words : List String := []
  notice : Option Notice := none
  rest : List String := []
  deriving Inhabited

/-- The value of an option. -/
def Given.value? (g : Given) (name : String) : Option String :=
  (g.values.find? fun v => v.1 = name).map Prod.snd

/-- Looks at the value that has yet to be looked at. The option must accept it, and must not have
had a value before. -/
def Given.settle? (g : Given) : Option Given :=
  match g.pending with
  | none => some g
  | some (s, value) =>
    if s.accepts value.toList && !g.values.any fun v => v.1 = s.name then
      some { g with values := g.values ++ [(s.name, value)], pending := none }
    else none

/-- Whether an argument looks like an option. -/
def looksLikeOption (argument : String) : Bool :=
  match argument.toList with
  | '-' :: _ :: _ => true
  | _ => false

/-- The text before the first equals sign, and the text after it if there is one. -/
def splitValue : List Char → List Char × Option (List Char)
  | [] => ([], none)
  | '=' :: rest => ([], some rest)
  | c :: rest =>
    let (name, value) := splitValue rest
    (c :: name, value)

/-- What an argument that looks like an option stands for: a notice, or an option and the value that
stands in the same argument. -/
inductive Mark where
  | notice (n : Notice)
  | option (s : Switch) (value : Option String)
  deriving Inhabited

/-- Reads an argument that looks like an option. -/
def Form.mark? (f : Form) : List Char → Option Mark
  | '-' :: '-' :: body =>
    let (name, value) := splitValue body
    let name := String.ofList name
    if name = "help" ∧ value.isNone then some (.notice .help)
    else if name = "version" ∧ f.versioned ∧ value.isNone then some (.notice .version)
    else
      (f.switches.find? fun s => s.name = name).map fun s => .option s (value.map String.ofList)
  | '-' :: letter :: body =>
    if letter = 'h' then some (.notice .help)
    else if letter = 'V' ∧ f.versioned then some (.notice .version)
    else
      (f.switches.find? fun s => s.letter = some letter).map fun s =>
        match body with
        | [] => .option s none
        | '=' :: value => .option s (some (String.ofList value))
        | value => .option s (some (String.ofList value))
  | _ => none

/-- Adds words, each of which must be one that the form has a place for. -/
def Form.takeWords? (f : Form) : List String → Given → Option Given
  | [], g => some g
  | word :: rest, g =>
    match f.words[g.words.length]? with
    | some accepts =>
      if accepts word.toList then f.takeWords? rest { g with words := g.words ++ [word] } else none
    | none => none

/-- Reads arguments. What follows the name of a command is left. -/
def Form.read? (f : Form) : List String → Given → Option Given
  | [], g => g.settle?
  | argument :: rest, g =>
    if argument = "--" then g.settle?.bind (f.takeWords? rest)
    else if looksLikeOption argument then
      match f.mark? argument.toList with
      | none => none
      | some (.notice n) => g.settle?.map fun g => { g with notice := some n }
      | some (.option s (some value)) =>
        g.settle?.bind fun g =>
          (Given.settle? { g with pending := some (s, value) }).bind (f.read? rest)
      | some (.option s none) =>
        match rest with
        | [] => none
        | value :: rest =>
          if looksLikeOption value then none
          else g.settle?.bind fun g => f.read? rest { g with pending := some (s, value) }
    else if f.commands.contains argument then some { g with words := [argument], rest }
    else g.settle?.bind fun g => (f.takeWords? [argument] g).bind (f.read? rest)

/-- How a page is asked for. -/
inductive Format where
  | table
  | json
  deriving Repr, DecidableEq, Inhabited

/-- What the program is asked to do. -/
inductive Request where
  /-- Show the rows of a table file. -/
  | showTable (csv : String) (limit : Option Nat)
  /-- Look a load up in a table file. -/
  | lookup (csv settings : String) (rate drop errors fifo : UInt64) (interface : String)
  /-- Sample the running system. -/
  | collect (interface : String) (count : Option UInt64) (interval : Float)
      (output : Option String) (systemRoot processRoot : String)
  /-- Show the report of an agent. -/
  | report
  /-- Show the health of an agent. -/
  | health
  | notice (n : Notice)
  deriving Inhabited

/-- A request with what holds for all of them. -/
structure Invocation where
  endpoint : String
  format : Format
  request : Request
  deriving Inhabited

/-- Where settings are looked for if nothing else is said. -/
def defaultSettingsPath : String := "/etc/phoebe/settings.json"

/-- Where agents answer if nothing else is said. -/
def defaultEndpoint : String := "http://localhost:8080"

/-- A value that may be absent, read if it is present. -/
def Given.optional? {α : Type} (g : Given) (name : String) (read : List Char → Option α) :
    Option (Option α) :=
  match g.value? name with
  | none => some none
  | some value => (read value.toList).map some

/-- A value that is replaced by a default if it is absent. -/
def Given.orElse? {α : Type} (g : Given) (name : String) (read : List Char → Option α)
    (default : α) : Option α :=
  (g.optional? name read).map fun value => value.getD default

/-- A path, which is not empty. -/
def path? (cs : List Char) : Option String := if cs.isEmpty then none else some (String.ofList cs)

/-- The format of a name. -/
def format? (cs : List Char) : Option Format :=
  if cs = "table".toList then some .table else if cs = "json".toList then some .json else none

/-- The request that arguments of a form make up, if they do not ask for a notice. -/
def Form.request? (f : Form) (arguments : List String) (build : Given → Option Request) :
    Option Request := do
  let g ← f.read? arguments {}
  match g.notice with
  | some n => some (.notice n)
  | none => build g

/-- Whether a value can be read. -/
def readable {α : Type} (read : List Char → Option α) (cs : List Char) : Bool := (read cs).isSome

/-- The request to show a table file. -/
def showRequest? (arguments : List String) : Option Request :=
  let form : Form := {
    switches := [⟨"limit", some 'l', readable Decimal.word64?⟩]
    words := [readable path?] }
  form.request? arguments fun g => do
    let [csv] := g.words | none
    some (.showTable csv (← g.optional? "limit" fun cs => (Decimal.word64? cs).map UInt64.toNat))

/-- The request to look a load up. -/
def lookupRequest? (arguments : List String) : Option Request :=
  let form : Form := {
    switches := [⟨"settings", some 's', readable path?⟩,
      ⟨"rate", none, readable Decimal.word64?⟩, ⟨"drop", none, readable Decimal.word64?⟩,
      ⟨"errors", none, readable Decimal.word64?⟩, ⟨"fifo", none, readable Decimal.word64?⟩,
      ⟨"interface", some 'i', fun _ => true⟩]
    words := [readable path?] }
  form.request? arguments fun g => do
    let [csv] := g.words | none
    let rate ← (← g.optional? "rate" Decimal.word64?)
    some (.lookup csv (← g.orElse? "settings" path? defaultSettingsPath) rate
      (← g.orElse? "drop" Decimal.word64? 0) (← g.orElse? "errors" Decimal.word64? 0)
      (← g.orElse? "fifo" Decimal.word64? 0) ((g.value? "interface").getD "eth0"))

/-- The request to sample the running system. -/
def collectRequest? (arguments : List String) : Option Request :=
  let form : Form := {
    switches := [⟨"count", some 'c', readable Decimal.word64?⟩,
      ⟨"interval", none, readable Decimal.float?⟩, ⟨"output", some 'o', readable path?⟩,
      ⟨"sys-root", none, readable path?⟩, ⟨"proc-root", none, readable path?⟩]
    words := [fun _ => true] }
  form.request? arguments fun g => do
    let [interface] := g.words | none
    some (.collect interface (← g.optional? "count" Decimal.word64?)
      (← g.orElse? "interval" Decimal.float? 1.0) (← g.optional? "output" path?)
      (← g.orElse? "sys-root" path? "/sys") (← g.orElse? "proc-root" path? "/proc"))

/-- A request without options or words. -/
def bareRequest? (request : Request) (arguments : List String) : Option Request :=
  Form.request? {} arguments fun _ => some request

/-- The commands about table files. -/
def tableCommands : List String := ["show", "lookup", "help"]

/-- The commands of the program. -/
def commands : List String := ["table", "collect", "report", "health", "help"]

/-- Help, on the program or on the command that names lead to one after the other. -/
def helpRequest? : List String → Option Request
  | [] => some (.notice .help)
  | [name] => if commands.contains name then some (.notice .help) else none
  | ["table", name] => if tableCommands.contains name then some (.notice .help) else none
  | _ => none

/-- A request about table files. -/
def tableRequest? (arguments : List String) : Option Request :=
  Form.request? { commands := tableCommands } arguments fun g =>
    match g.words with
    | ["show"] => showRequest? g.rest
    | ["lookup"] => lookupRequest? g.rest
    | ["help"] => helpRequest? ("table" :: g.rest)
    | _ => none

/-- The request of a command. -/
def commandRequest? (command : String) (arguments : List String) : Option Request :=
  if command = "table" then tableRequest? arguments
  else if command = "collect" then collectRequest? arguments
  else if command = "report" then bareRequest? .report arguments
  else if command = "health" then bareRequest? .health arguments
  else if command = "help" then helpRequest? arguments
  else none

/-- The invocation that a command line stands for, if it is well formed. A last value before the
command is looked at after the command, which may ask for a notice. -/
def Invocation.ofArguments? (environment : List (String × String)) (arguments : List String) :
    Option Invocation := do
  let form : Form := {
    switches := [⟨"endpoint", none, fun _ => true⟩, ⟨"format", some 'f', readable format?⟩]
    commands := commands
    versioned := true }
  let usual := ((environment.find? fun e => e.1 = "TUNERCTL_ENDPOINT").map Prod.snd).getD
    defaultEndpoint
  let noticed (n : Notice) : Invocation := ⟨usual, .table, .notice n⟩
  let g ← form.read? arguments {}
  match g.notice, g.words with
  | some n, _ => some (noticed n)
  | none, [command] =>
    match ← commandRequest? command g.rest with
    | .notice n => some (noticed n)
    | request =>
      let g ← g.settle?
      some ⟨(g.value? "endpoint").getD usual, ← g.orElse? "format" format? .table, request⟩
  | none, _ => none

end NetworkTuning.Tool
