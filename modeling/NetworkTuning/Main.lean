import NetworkTuning.Tool.Run

/-!
# The operator's program on the running system

Brings in the files that a run looks at, carries the run out, and puts out what it leaves behind.
There is no way to agents from here, and no other program is started.
-/

namespace NetworkTuning.Main

open Tool

/-- What stands at a path of the running system. -/
def node? (path : String) : IO (Option Node) := do
  try
    return some (.file (.ofBytes (← IO.FS.readBinFile path).toList))
  catch
    | .inappropriateType .. => return some .directory
    | _ => return none

/-- A tree with what stands at a path, or with the directory where nothing stands there yet. -/
def bring (t : FileTree) (path : String) : IO FileTree := do
  let place := String.ofList (((Path.split? path).map Prod.fst).getD [])
  match ← node? path, ← node? place with
  | some node, _ => return t.put path node
  | none, some .directory => return t.put place .directory
  | none, _ => return t

/-- The files at some paths as they stand. -/
def bringAll (paths : List String) : IO FileTree := paths.foldlM bring {}

/-- The names and values of the environment. -/
def environment : IO (List (String × String)) := do
  let entries := (← IO.FS.readBinFile "/proc/self/environ").toList.splitOn 0
  return entries.filterMap fun entry =>
    match (Text.decodeLossy entry).splitOn "=" with
    | name :: value => if name.isEmpty then none else some (name, "=".intercalate value)
    | [] => none

/-- Puts out what a run leaves behind. The first `shown` characters of its output are out already.
-/
def putOut (product : Option String) (shown : Nat) (r : Ran) : IO Unit := do
  let output ← IO.getStdout
  output.putStr (String.ofList (r.output.toList.drop shown))
  output.flush
  (← IO.getStderr).putStr r.messages
  for path in product do
    if let .ok contents := r.files.read path then
      IO.FS.writeFile path contents.lossy

/-- Carries out a run on the running system, as far as its end; `sources` are the files it looks at.
-/
def carryOut (sources : List String) (product : Option String) (shown : Nat) : Run → IO UInt32
  | .ended r => do
    putOut product shown r
    return r.code.toUInt32
  | .waiting soFar interval resume => do
    putOut product shown soFar
    IO.sleep (interval / 1000000).toUInt32
    let files ← bringAll sources
    carryOut sources product soFar.output.length (resume files)

end NetworkTuning.Main

open NetworkTuning in
/-- Runs the program on the command line it was started with. -/
def main (arguments : List String) : IO UInt32 := do
  let environment ← Main.environment
  let terminal ← (← IO.getStdout).isTty
  let request := (Tool.Invocation.ofArguments? environment arguments).map fun i => i.request
  let sources := (request.map Tool.Request.sources).getD []
  let files ← Main.bringAll sources
  let coloured := terminal && !environment.any fun e => e.1 = "NO_COLOR"
  let world : Tool.World := { files, environment, coloured }
  Main.carryOut sources (request.bind Tool.Request.product?) 0 (Tool.run world arguments)
