/-!
# Paths

A path is text; its parts stand between slashes. Slashes and lone dots at the end do not count, so
`a/` and `a/.` name what `a` names. A path has a last name unless it is empty, the root, a lone dot,
or ends with `..`.
-/

namespace NetworkTuning.Path

/-- A reversed path without slashes and lone dots that do not count. -/
def trimReversed : List Char → List Char
  | [] => []
  | ['/'] => ['/']
  | ['.'] => ['.']
  | '/' :: rest => trimReversed rest
  | '.' :: '/' :: rest => trimReversed ('/' :: rest)
  | cs => cs

/-- A path without the slashes and lone dots at its end. -/
def trimEnd (path : String) : List Char := (trimReversed path.toList.reverse).reverse

/-- The text before the last name, its slash included, and the last name. -/
def split? (path : String) : Option (List Char × List Char) :=
  let reversed := (trimEnd path).reverse
  let name := (reversed.takeWhile (· ≠ '/')).reverse
  let before := (reversed.dropWhile (· ≠ '/')).reverse
  if name = [] ∨ name = ['.', '.'] ∨ (name = ['.'] ∧ before = []) then none else some (before, name)

/-- A name without its extension: what stands before its last dot, or all of it if nothing does. -/
def stemOf (name : List Char) : List Char :=
  let reversed := name.reverse
  let before := (reversed.dropWhile (· ≠ '.')).drop 1
  if before.isEmpty then name else before.reverse

/-- The last name of a path without its extension, empty if there is no last name. -/
def stem (path : String) : String :=
  match split? path with
  | none => ""
  | some (_, name) => String.ofList (stemOf name)

/-- A path continued by another; one that starts at the root takes its place. -/
def join (path name : String) : String :=
  if path.isEmpty ∨ name.toList.head? = some '/' then name
  else if path.toList.getLast? = some '/' then path ++ name
  else path ++ "/" ++ name

/-- The path of a sibling: another last name in the same place. -/
def withName (path name : String) : String :=
  match split? path with
  | none => join path name
  | some (before, _) => join (String.ofList (trimReversed before.reverse).reverse) name

/-- The extension of a path's last name: what stands after its last dot, if anything stands before
it. -/
def extensionOf (path : String) : List Char :=
  match split? path with
  | none => []
  | some (_, name) => name.drop ((stemOf name).length + 1)

/-- A path with another extension in place of its own; one that has no last name, or none but for
its extension, gets none. -/
def withExtension (path extension : String) : String :=
  let cut := String.ofList (path.toList.take (path.length - (extensionOf path).length))
  match split? cut with
  | none => cut
  | some (before, name) => String.ofList (before ++ stemOf name) ++ "." ++ extension

end NetworkTuning.Path
