import NetworkTuning.FileTree.Path
import NetworkTuning.TableFile.Row

/-!
# Table files

A table file has a first line that is not read, and one row to a line after it; blank lines do not
count. Rows may come in any order and a key may come again, which a table takes only once. The room
for a table is asked for when it is loaded, as many places as a machine word can count.

A table file is written beside its place and then moved there, so the old one stays until the new
one is whole. The system may refuse at each stage on the way, for a reason that stands in the tree
of files or for one of its own (`Faults`): to create the draft, to take a line of it, to take what
the writer still holds, and to move the draft. What has reached the draft by then stays in it. That
permissions or room are missing is such a reason of its own. Links are left out, as they are from
the tree: the draft's path leads to the draft itself.
-/

namespace NetworkTuning.TableFile

/-- Where the rows learned from a table file are kept: beside it, under its name with a fixed end.
-/
def snapshotPath (path : String) : String :=
  Path.withName path (Path.stem path ++ "_trained_data.csv")

/-- Where a table file is written before it is moved to its place. -/
def draftPath (path : String) : String := Path.withExtension path "csv.tmp"

/-- The profiles on the lines from number `line` on. -/
def readRows (path : String) : Nat → List (Except SystemError (List Char)) →
    Except TableFileError (List Profile)
  | _, [] => .ok []
  | _, .error cause :: _ => .error (.system path cause)
  | line, .ok row :: rest =>
    if (Text.trim row).isEmpty then readRows path (line + 1) rest
    else do
      let p ← Profile.ofRow line row
      let others ← readRows path (line + 1) rest
      return p :: others

/-- The profiles on all lines but the first. -/
def readLines (path : String) : List (Except SystemError (List Char)) →
    Except TableFileError (List Profile)
  | [] => .error (.noLines path)
  | .error cause :: _ => .error (.system path cause)
  | .ok _ :: rest => readRows path 2 rest

/-- The profiles of a table file, in file order. -/
def read (files : FileTree) (path : String) : Except TableFileError (List Profile) :=
  match files.read path with
  | .error cause => .error (.system path cause)
  | .ok contents => readLines path contents.lines

/-- Inserts profiles one by one; a key that is there already is passed over. -/
def insertAll (t : Table) : List Profile → Except TableFileError Table
  | [] => .ok t
  | p :: rest =>
    match t.insert p with
    | .ok (grown, _) => insertAll grown rest
    | .error (.duplicateKey _) => insertAll t rest
    | .error cause => .error (.refused cause)

/-- Asks for the room of a list of so many rows. -/
def allocate (memory : Memory) (places : Nat) : Except TableFileError Unit :=
  if memory.rows < places then .error (.noRoom places) else .ok ()

/-- A table of a file's rows, with room for `learning` more than the file has rows. The rows of the
file are a list of their own; the two counts are added as machine words, so the sum may start over
at zero. -/
def load (files : FileTree) (path : String) (learning : UInt64) (memory : Memory := .ample) :
    Except TableFileError Table := do
  let profiles ← read files path
  allocate memory profiles.length
  let places := (learning + profiles.length.toUInt64).toNat
  allocate memory places
  insertAll (Table.ofCapacity places) profiles

/-- The profiles less those that repeat the key of the one written just before. -/
def withoutRepeats : Option UInt64 → List Profile → List Profile
  | _, [] => []
  | previous, p :: rest =>
    if previous = some p.key then withoutRepeats previous rest
    else p :: withoutRepeats (some p.key) rest

/-- The text of a table file. -/
def text (profiles : List Profile) : String :=
  String.join ((headerLine :: profiles.map Profile.row).map fun line => line ++ "\n")

/-- A refusal to take more of a draft: why, and how much of what the writer was handed has reached
the draft all the same. The text of a table file is plain, so it may be cut anywhere. -/
structure Fault where
  cause : SystemError
  reached : Nat := 0
  deriving Repr, DecidableEq, Inhabited

/-- The part of a text that has reached the draft. -/
def Fault.part (fault : Fault) (handed : String) : String :=
  String.ofList (handed.toList.take fault.reached)

/-- What the system refuses for reasons of its own while a table file is written, by stages. The
lines of the draft are counted from zero, which is the header. -/
structure Faults where
  creating : Option SystemError := none
  taking : Nat → Option Fault := fun _ => none
  flushing : Option Fault := none
  moving : Option SystemError := none
  deriving Inhabited

/-- Hands lines to the writer of a draft, from number `line` on, which was handed some text before.
Gives the text of the draft when the writer is done, or why the system refuses and what the draft
holds then. -/
def fill (faults : Faults) : Nat → String → List String → Except (SystemError × String) String
  | _, handed, [] =>
    match faults.flushing with
    | some fault => .error (fault.cause, fault.part handed)
    | none => .ok handed
  | line, handed, content :: rest =>
    let handed := handed ++ (content ++ "\n")
    match faults.taking line with
    | some fault => .error (fault.cause, fault.part handed)
    | none => fill faults (line + 1) handed rest

/-- Writes a table file and tells how many rows it has. -/
def write (files : FileTree) (path : String) (profiles : List Profile) (faults : Faults := {}) :
    FileTree × Except TableFileError Nat :=
  let draft := draftPath path
  let rows := withoutRepeats none profiles
  match refusedOr faults.creating (files.create draft) with
  | .error cause => (files, .error (.system draft cause))
  | .ok (created, here) =>
    match fill faults 0 "" (headerLine :: rows.map Profile.row) with
    | .error (cause, part) =>
      (created.withNode here (some (.file (.text part))), .error (.system draft cause))
    | .ok whole =>
      let drafted := created.withNode here (some (.file (.text whole)))
      match refusedOr faults.moving (drafted.rename draft path) with
      | .error cause => (drafted, .error (.system path cause))
      | .ok moved => (moved, .ok rows.length)

end NetworkTuning.TableFile
