import NetworkTuning.Profile.Column
import NetworkTuning.Table.Basic
import NetworkTuning.Table.Memory
import NetworkTuning.Text.Blank
import NetworkTuning.Text.Quoted
import NetworkTuning.FileTree.Basic

/-!
# Rows of a table file

A row holds the 53 values of a profile in column order with commas between them. Reading a row takes
each part without the blanks around it and refuses the leftmost part that its column cannot read.
-/

namespace NetworkTuning

/-- Why a table file is refused. -/
inductive TableFileError where
  /-- The system refused an operation on a file. -/
  | system (path : String) (cause : SystemError)
  /-- The file has no line at all. -/
  | noLines (path : String)
  /-- A row does not have one part for each column. -/
  | partCount (line found : Nat)
  /-- A part is no value of its column. -/
  | badValue (line : Nat) (column : Column) (value : String)
  /-- The table refused a row. -/
  | refused (cause : TableError)
  /-- There is no room for a list of so many rows. This is not answered: the program stops. -/
  | noRoom (places : Nat)
  deriving Repr, DecidableEq, Inhabited

/-- The wording of a refusal. -/
def TableFileError.message : TableFileError → String
  | system path cause => s!"I/O error on {path}: " ++ cause.message
  | noLines path => s!"{path} is empty"
  | partCount line found =>
    s!"line {line}: expected " ++ toString Column.all.length ++ s!" values, found {found}"
  | badValue line column value =>
    s!"line {line}: invalid value " ++ Text.quoted value ++ " for " ++ column.header
  | refused cause => cause.message
  | noRoom places =>
    if mostRows < places then "capacity overflow"
    else "memory allocation of " ++ toString (places * Profile.bytes) ++ " bytes failed"

/-- What went wrong, the outermost first. -/
def TableFileError.chain : TableFileError → List String
  | system path cause => [(system path cause).message, cause.message]
  | e => [e.message]

/-- The first line of a table file. -/
def headerLine : String := ",".intercalate (Column.all.map Column.header)

/-- The row of a profile. -/
def Profile.row (p : Profile) : String := ",".intercalate (Column.all.map fun c => c.render p)

/-- Takes one part for each column, from the left, into a profile. -/
def readParts (line : Nat) :
    List Column → List (List Char) → Profile → Except TableFileError Profile
  | c :: columns, part :: parts, p =>
    match c.width.read? part with
    | some v => readParts line columns parts (c.set v p)
    | none => .error (.badValue line c (String.ofList part))
  | _, _, p => .ok p

/-- The profile that a row denotes; `line` is the row's place in its file. -/
def Profile.ofRow (line : Nat) (row : List Char) : Except TableFileError Profile :=
  let parts := (Text.splitAll (· = ',') row).map Text.trim
  if parts.length = Column.all.length then readParts line Column.all parts {}
  else .error (.partCount line parts.length)

end NetworkTuning
