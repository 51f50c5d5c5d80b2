import NetworkTuning.Decimal.Natural
import NetworkTuning.Text.Blank

/-!
# Key paths

The name under which an entry is written may be a path into other entries: names with points between
them, and after each name places in lists, between brackets. A negative place counts from the end of
its list. A name that is no such path stands for itself.
-/

namespace NetworkTuning.Settings

/-- A step on the way to an entry: to the member of a name, or to the item of a place. -/
inductive Step where
  | member (name : String)
  | item (place : Int)
  deriving Repr, DecidableEq, Inhabited

namespace Step

/-- The characters of names in a path. -/
def isPlain (c : Char) : Bool := c.isAlphanum || c = ' ' || c = '_' || c = '-'

/-- The step for what stands after an opening bracket: a place, maybe among gaps, and the closing
bracket. -/
def item? (cs : List Char) : Option Step :=
  let isGap (c : Char) : Bool := c = ' ' || c = '\t'
  let inner := ((cs.dropLast.dropWhile isGap).reverse.dropWhile isGap).reverse
  if cs.getLast? = some ']' ∧ inner.head? ≠ some '+' then (Decimal.signed64? inner).map item
  else none

/-- The steps for a name and the places after it. -/
def ofPiece? (cs : List Char) : Option (List Step) :=
  let name := cs.takeWhile isPlain
  match Text.splitAll (· = '[') (cs.dropWhile isPlain) with
  | [] :: places =>
    if name.isEmpty then none
    else (places.mapM item?).map fun items => member (String.ofList name) :: items
  | _ => none

/-- The path that a name stands for. -/
def path (name : String) : List Step :=
  match (Text.splitAll (· = '.') name.toList).mapM ofPiece? with
  | some pieces => pieces.flatten
  | none => [member name]

end Step

end NetworkTuning.Settings
