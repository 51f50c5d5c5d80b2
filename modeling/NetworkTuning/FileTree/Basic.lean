import NetworkTuning.Text.Blank
import NetworkTuning.Text.Utf8

/-!
# A tree of files

Files and directories by path. Each operation is a function on the tree and either gives its result
or says why the system refuses; a refused operation changes nothing. Contents are text, or bytes
that are no text.

What the tree itself says is all that an operation goes by. There are no links in it, so two places
are two files, and no owners, permissions or limits: what the system refuses for such a reason, or
because a device is full or broken, is a fault that comes from outside (`refusedOr`), and a file
that is written piece by piece may then hold a part of what it was to hold.
-/

namespace NetworkTuning

/-- What a file holds. -/
inductive Contents where
  | text (s : String)
  | binary (bytes : List UInt8)
  deriving DecidableEq, Inhabited

/-- What stands at a path. -/
inductive Node where
  | file (contents : Contents)
  | directory
  deriving DecidableEq, Inhabited

/-- Why the system refuses. -/
inductive SystemError where
  | notFound
  | notDirectory
  | isDirectory
  | busy
  | nameTooLong
  | zeroInName
  | notText
  /-- Any other reason, one that is not in the tree, in the system's wording. -/
  | other (wording : String)
  deriving Repr, DecidableEq, Inhabited

/-- The system's wording. -/
def SystemError.message : SystemError → String
  | notFound => "No such file or directory (os error 2)"
  | notDirectory => "Not a directory (os error 20)"
  | isDirectory => "Is a directory (os error 21)"
  | busy => "Device or resource busy (os error 16)"
  | nameTooLong => "File name too long (os error 36)"
  | zeroInName => "file name contained an unexpected NUL byte"
  | notText => "stream did not contain valid UTF-8"
  | other wording => wording

/-- What comes of an operation: it is refused if the system has a fault of its own. -/
def refusedOr {α : Type} (fault : Option SystemError) (result : Except SystemError α) :
    Except SystemError α :=
  match fault with
  | some cause => .error cause
  | none => result

/-- Files and directories by the names on the way to them; the root and the place where
relative paths start are always directories. -/
structure FileTree where
  entries : List (List String × Node) := []
  deriving Inhabited

namespace FileTree

/-- What stands at a place. -/
def node? (t : FileTree) (place : List String) : Option Node :=
  if place = [] ∨ place = ["/"] then some .directory
  else (t.entries.find? fun e => e.1 = place).map Prod.snd

/-- The tree with something else, or nothing, at a place. -/
def withNode (t : FileTree) (place : List String) (node : Option Node) : FileTree :=
  let others := t.entries.filter fun e => e.1 ≠ place
  match node with
  | none => ⟨others⟩
  | some n => ⟨(place, n) :: others⟩

/-- The names in a path, without the empty ones. -/
def names (path : String) : List String :=
  ((Text.splitAll (· = '/') path.toList).map String.ofList).filter (· ≠ "")

/-- Where a path starts: at the root, or where the tree does. -/
def origin (path : String) : List String := if path.toList.head? = some '/' then ["/"] else []

/-- The place above a place; there is none above the root. -/
def above (place : List String) : List String := if place = ["/"] then place else place.dropLast

/-- Follows names from a directory on; all but the last must lead to directories. -/
def follow (t : FileTree) : List String → List String → Except SystemError (List String)
  | here, [] => .ok here
  | here, name :: rest =>
    match t.node? here with
    | some .directory =>
      if name = "." then t.follow here rest
      else if name = ".." then t.follow (above here) rest
      else if 255 < name.utf8ByteSize then .error .nameTooLong
      else t.follow (here ++ [name]) rest
    | some (.file _) => .error .notDirectory
    | none => .error .notFound

/-- Whether a path asks for a directory by its last character. -/
def asksDirectory (path : String) : Bool := path.toList.getLast? = some '/'

/-- The place a path leads to, whether or not something stands there. -/
def place (t : FileTree) (path : String) : Except SystemError (List String) :=
  if path.toList.contains '\x00' then .error .zeroInName
  else if path.isEmpty then .error .notFound
  else if 4096 ≤ path.utf8ByteSize then .error .nameTooLong
  else t.follow (origin path) (names path)

/-- What stands at a path. -/
def look (t : FileTree) (path : String) : Except SystemError Node := do
  match t.node? (← t.place path) with
  | none => .error .notFound
  | some (.file c) => if asksDirectory path then .error .notDirectory else .ok (.file c)
  | some .directory => .ok .directory

/-- Whether a file stands at a path. -/
def isFile (t : FileTree) (path : String) : Bool :=
  match t.look path with
  | .ok (.file _) => true
  | _ => false

/-- The contents of a file. -/
def read (t : FileTree) (path : String) : Except SystemError Contents := do
  match ← t.look path with
  | .file c => .ok c
  | .directory => .error .isDirectory

/-- The contents of a file as text. -/
def readText (t : FileTree) (path : String) : Except SystemError String := do
  match ← t.read path with
  | .text s => .ok s
  | .binary _ => .error .notText

/-- Creates an empty file, or empties the one that is there, and tells its place; a path that asks
for a directory is refused. -/
def create (t : FileTree) (path : String) : Except SystemError (FileTree × List String) := do
  let here ← t.place path
  if asksDirectory path then .error .isDirectory
  else match t.node? here with
    | some .directory => .error .isDirectory
    | _ => .ok (t.withNode here (some (.file (.text ""))), here)

/-- Creates a file, or replaces its contents. -/
def write (t : FileTree) (path : String) (contents : Contents) : Except SystemError FileTree := do
  let (created, here) ← t.create path
  return created.withNode here (some (.file contents))

/-- Whether a path ends with a name that only refers to a place, as a lone dot does. -/
def endsInReference (path : String) : Bool :=
  match (names path).getLast? with
  | some name => name = "." || name = ".."
  | none => true

/-- Moves a file to another path, over a file that stands there. -/
def rename (t : FileTree) (source target : String) : Except SystemError FileTree := do
  let origin ← t.place source
  let goal ← t.place target
  if endsInReference target then .error .busy
  else match t.node? origin, t.node? goal with
    | some (.file c), there =>
      if asksDirectory target then .error .notDirectory
      else match there with
        | some .directory => .error .isDirectory
        | _ => .ok ((t.withNode origin none).withNode goal (some (.file c)))
    | some .directory, _ => .error .isDirectory
    | none, _ => .error .notFound

/-- The tree with a directory at each place on the way to `names`, from `here` on. -/
def ensure (t : FileTree) : List String → List String → FileTree
  | _, [] => t
  | here, name :: rest =>
    let next := here ++ [name]
    match t.node? next with
    | some .directory => t.ensure next rest
    | _ => (t.withNode next (some .directory)).ensure next rest

/-- The place that the names of a path lead to if all of them are directories. -/
def spot (path : String) : List String :=
  (names path).foldl
    (fun here name =>
      if name = "." then here else if name = ".." then above here else here ++ [name])
    (origin path)

/-- Puts something at a path, creating the directories on the way. -/
def put (t : FileTree) (path : String) (node : Node) : FileTree :=
  let place := spot path
  (t.ensure [] place.dropLast).withNode place (some node)

/-- Removes what stands at a path and below it. -/
def remove (t : FileTree) (path : String) : FileTree :=
  let place := spot path
  ⟨t.entries.filter fun e => e.1.take place.length ≠ place⟩

/-- Puts something at each path, or removes what stands there, one after the other. -/
def change (changes : List (String × Option Node)) (t : FileTree) : FileTree :=
  changes.foldl
    (fun t c => match c.2 with
      | some node => t.put c.1 node
      | none => t.remove c.1)
    t

end FileTree

/-- The lines of a file's contents; a line that is no text is an error of its own. -/
def Contents.lines : Contents → List (Except SystemError (List Char))
  | text s => (Text.lines s.toList).map Except.ok
  | binary bytes =>
    let pieces := bytes.splitOn 10
    let last := pieces.getLast?.getD []
    let whole := pieces.dropLast.map fun piece =>
      (Text.decode? piece).map fun s => Text.withoutReturn s.toList
    let tail := if last.isEmpty then [] else [(Text.decode? last).map String.toList]
    (whole ++ tail).map fun line =>
      match line with
      | some cs => .ok cs
      | none => .error .notText

/-- The contents as text, with a replacement character for each fault. -/
def Contents.lossy : Contents → String
  | text s => s
  | binary bytes => Text.decodeLossy bytes

/-- The contents that bytes make up. -/
def Contents.ofBytes (bytes : List UInt8) : Contents :=
  match Text.decode? bytes with
  | some s => text s
  | none => binary bytes

end NetworkTuning
