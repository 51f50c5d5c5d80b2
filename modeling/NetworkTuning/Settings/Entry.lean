import NetworkTuning.Decimal.Binary
import NetworkTuning.Decimal.Reading
import NetworkTuning.Decimal.Shortest
import NetworkTuning.FileTree.Basic
import NetworkTuning.Json.Value
import NetworkTuning.Settings.KeyPath
import NetworkTuning.Text.Lowercase
import NetworkTuning.Text.Quoted

/-!
# Entries of a settings source

Settings are put together from sources: a document, and names and values of the environment. An
entry keeps the source it came from for the sake of messages. Names are compared without regard to
case, tables are merged entry by entry, and a value that is wanted as another kind is converted
where it can be.
-/

namespace NetworkTuning.Settings

/-- A single value. -/
inductive Scalar where
  | nothing
  | flag (b : Bool)
  | whole (n : Int)
  | real (x : Float)
  | text (s : String)
  deriving Inhabited

/-- A value, a list, or a table, each with the source it came from. -/
inductive Entry where
  | scalar (source : Option String) (value : Scalar)
  | list (source : Option String) (items : List Entry)
  | table (source : Option String) (members : List (String × Entry))
  deriving Inhabited

/-- Why entries do not make up a settings document. -/
inductive Fault where
  /-- The text of the source is no data document with an object at its top. -/
  | malformed
  /-- There is no such file. -/
  | noFile (path : String)
  /-- The file cannot be read as text. -/
  | unreadable (cause : SystemError)
  /-- A value cannot be converted to the kind that is wanted. -/
  | wrongKind (found expected key : String) (source : Option String)
  /-- Something else stands where a section is wanted. -/
  | wrongShape (found expected : String)
  /-- A field is absent. -/
  | missing (field : String)
  /-- A section in list form is too short. -/
  | tooShort (length : Nat) (expected : String)
  /-- A label has no such value. -/
  | unknownLabel (kind name : String)
  /-- Something other than a name stands where a label is wanted. -/
  | noLabel (kind : String)
  deriving Inhabited

/-- The wording of a fault. -/
def Fault.message : Fault → String
  | malformed => "the text is not a settings document"
  | noFile path => s!"configuration file \"{path}\" not found"
  | unreadable cause => cause.message
  | wrongKind found expected key source =>
    s!"invalid type: {found}, expected {expected} for key `{key}`" ++
      (match source with
        | some s => s!" in {s}"
        | none => "")
  | wrongShape found expected => s!"invalid type: {found}, expected {expected}"
  | missing field => s!"missing field `{field}`"
  | tooShort length expected => s!"invalid length {length}, expected {expected}"
  | unknownLabel kind name => s!"enum {kind} does not have variant constructor {name}"
  | noLabel kind =>
    s!"value of enum {kind} should be represented by either string or table with exactly one key"

/-- A name in the form in which names are compared. -/
def fold (name : String) : String := Text.lowercase name

/-- A real number in a message, with a point even if it is whole. -/
def showReal (x : Float) : String :=
  let s := Decimal.plain x
  if x.isFinite && !s.toList.contains '.' then s ++ ".0" else s

/-- How a message names what was found. -/
def Entry.describe : Entry → String
  | scalar _ .nothing => "unit value"
  | scalar _ (.flag b) => s!"boolean `{b}`"
  | scalar _ (.whole n) => s!"integer `{n}`"
  | scalar _ (.real x) => "floating point `" ++ showReal x ++ "`"
  | scalar _ (.text s) => "string " ++ Text.quoted s
  | list _ _ => "sequence"
  | table _ _ => "map"

/-- The source an entry came from. -/
def Entry.source : Entry → Option String
  | scalar s _ => s
  | list s _ => s
  | table s _ => s

/-- A table entry of a name. -/
def Entry.member? (e : Entry) (name : String) : Option Entry :=
  match e with
  | table _ members => (members.find? fun m => m.1 = fold name).map Prod.snd
  | _ => none

/-- Puts an entry under a name, in place of one that is there; what is no table becomes one. -/
def Entry.withMember (e : Entry) (name : String) (value : Entry) : Entry :=
  let key := fold name
  match e with
  | table s members =>
    if members.any fun m => m.1 = key then
      table s (members.map fun m => if m.1 = key then (key, value) else m)
    else table s (members ++ [(key, value)])
  | _ => table none [(key, value)]

mutual

/-- What stands in a place after an entry is put there: a table is merged into what was there, any
other entry takes its place. -/
def Entry.over (existing : Option Entry) : Entry → Entry
  | .table _ incoming => Entry.merge (existing.getD (.table none [])) incoming
  | .scalar s v => .scalar s v
  | .list s items => .list s items

/-- Puts the members of a table one by one. -/
def Entry.merge (target : Entry) : List (String × Entry) → Entry
  | [] => target
  | (name, value) :: rest =>
    Entry.merge (target.withMember name (Entry.over (target.member? name) value)) rest

end

/-- The items of a list after room is made for a place, and the index of that place. A list that is
too short gets empty entries at its end, or at its start for a place that counts from the end. -/
def makeRoom (items : List Entry) (place : Int) : List Entry × Nat :=
  let vacant : Entry := .scalar none .nothing
  let index := if place < 0 then items.length + place else place
  if index < 0 then (List.replicate (-index).toNat vacant ++ items, 0)
  else (items ++ List.replicate (index.toNat + 1 - items.length) vacant, index.toNat)

/-- What stands in a place after an entry is put at the end of a path from there. On the way tables
and lists take the place of anything else; an item of a list is replaced as it is. -/
def Entry.assign (value : Entry) (existing : Option Entry) : List Step → Entry
  | [] => Entry.over existing value
  | .member name :: rest =>
    let table := existing.getD (.table none [])
    table.withMember name (value.assign (table.member? name) rest)
  | .item place :: rest =>
    let (source, items) := match existing with
      | some (.list source items) => (source, items)
      | _ => (none, [])
    let (items, index) := makeRoom items place
    .list source (items.set index (if rest.isEmpty then value else value.assign items[index]? rest))

/-- A number of a document; one beyond the signed 64-bit range is a real number. -/
def Scalar.ofInt (n : Int) : Scalar :=
  if n < Decimal.signed64Size then .whole n else .real n.toNat.toUInt64.toFloat

mutual

/-- The entry that a value of a document stands for; of members of one name the last counts. -/
def Entry.ofJson (source : Option String) : Json → Entry
  | .null => .scalar source .nothing
  | .bool b => .scalar source (.flag b)
  | .int n => .scalar source (.ofInt n)
  | .float x => .scalar source (.real x)
  | .text s => .scalar source (.text s)
  | .list items => .list source (Entry.ofItems source items)
  | .object members => .table source (Entry.ofMembers source [] members)
  | .unreadable => .scalar source .nothing

/-- The entries of a list. -/
def Entry.ofItems (source : Option String) : List Json → List Entry
  | [] => []
  | x :: rest => Entry.ofJson source x :: Entry.ofItems source rest

/-- The members of an object. -/
def Entry.ofMembers (source : Option String) (done : List (String × Entry)) :
    List (String × Json) → List (String × Entry)
  | [] => done
  | (name, x) :: rest =>
    Entry.ofMembers source ((done.filter fun m => m.1 ≠ name) ++ [(name, Entry.ofJson source x)])
      rest

end

/-- A whole number of the signed 64-bit range, the nearest to a double, a tie away from zero. -/
def roundToInt64 (x : Float) : Int :=
  match Decimal.Binary.ofFloat? x with
  | none =>
    if x.isNaN then 0
    else if x < 0.0 then -(Decimal.signed64Size : Int)
    else (Decimal.signed64Size : Int) - 1
  | some b =>
    let (numerator, denominator) := b.ratio 0
    let size := Decimal.roundTiesUp numerator denominator
    if b.negative then max (-(Decimal.signed64Size : Int)) (-(size : Int))
    else min ((Decimal.signed64Size : Int) - 1) (size : Int)

/-- The truth value that a word stands for. -/
def truth? (s : String) : Option Bool :=
  let word := fold s
  if word = "true" ∨ word = "on" ∨ word = "yes" then some true
  else if word = "false" ∨ word = "off" ∨ word = "no" then some false
  else none

/-- The fault of an entry of the wrong kind. -/
def Entry.unfit (e : Entry) (expected key : String) : Fault :=
  .wrongKind e.describe expected key e.source

/-- An entry as a whole number. -/
def Entry.toInt (key : String) (e : Entry) : Except Fault Int :=
  let unfit := Except.error (e.unfit "an integer" key)
  match e with
  | .scalar _ (.whole n) => .ok n
  | .scalar _ (.flag b) => .ok (if b then 1 else 0)
  | .scalar _ (.real x) => .ok (roundToInt64 x)
  | .scalar _ (.text s) =>
    match truth? s with
    | some b => .ok (if b then 1 else 0)
    | none =>
      match Decimal.signed64? s.toList with
      | some n => .ok n
      | none => unfit
  | _ => unfit

/-- An entry as a real number. -/
def Entry.toFloat (key : String) (e : Entry) : Except Fault Float :=
  let unfit := Except.error (e.unfit "a floating point" key)
  match e with
  | .scalar _ (.real x) => .ok x
  | .scalar _ (.whole n) => .ok (Float.ofInt n)
  | .scalar _ (.flag b) => .ok (if b then 1.0 else 0.0)
  | .scalar _ (.text s) =>
    match truth? s with
    | some b => .ok (if b then 1.0 else 0.0)
    | none =>
      match Decimal.float? s.toList with
      | some x => .ok x
      | none => unfit
  | _ => unfit

/-- An entry as text. -/
def Entry.toText (key : String) (e : Entry) : Except Fault String :=
  match e with
  | .scalar _ (.text s) => .ok s
  | .scalar _ (.flag b) => .ok (if b then "true" else "false")
  | .scalar _ (.whole n) => .ok (toString n)
  | .scalar _ (.real x) => .ok (Decimal.plain x)
  | _ => .error (e.unfit "a string" key)

end NetworkTuning.Settings
