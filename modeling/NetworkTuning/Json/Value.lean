/-!
# Data documents

The values of a data document. Whole numbers of up to 64 bits are kept apart from other numbers, and
an object keeps its members in the order and as often as they were written. A value may be written
by the rules and yet stand for nothing, such as a number that is too large; a document is sound if
it holds no such value and does not nest too deep.
-/

namespace NetworkTuning

/-- A value of a data document. -/
inductive Json where
  | null
  | bool (b : Bool)
  | int (n : Int)
  | float (x : Float)
  | text (s : String)
  | list (items : List Json)
  | object (members : List (String × Json))
  /-- A number that is too large, a text with half a pair of units, or an object with a name of that
  kind. -/
  | unreadable
  deriving Inhabited

namespace Json

/-- The first member of a name. -/
def member? (name : String) : Json → Option Json
  | object members => (members.find? fun m => m.1 = name).map Prod.snd
  | _ => none

/-- A value that may be missing: nothing is written as `null`. -/
def ofOption {α : Type} (write : α → Json) : Option α → Json
  | some a => write a
  | none => null

/-- A real number; one that is not finite has no spelling, and `null` stands for it. -/
def ofFloat (x : Float) : Json := if x.isFinite then float x else null

/-- The members of an object less those that are missing. -/
def ofMembers (members : List (String × Option Json)) : Json :=
  object (members.filterMap fun m => m.2.map fun v => (m.1, v))

mutual

/-- Whether every part of a value stands for something, and at most `levels` lists and objects lie
within each other. -/
def isSound : Nat → Json → Bool
  | _, unreadable => false
  | 0, list _ => false
  | levels + 1, list items => areSound levels items
  | 0, object _ => false
  | levels + 1, object members => haveSound levels members
  | _, _ => true

/-- Whether all items of a list are sound. -/
def areSound : Nat → List Json → Bool
  | _, [] => true
  | levels, x :: rest => isSound levels x && areSound levels rest

/-- Whether all members of an object are sound. -/
def haveSound : Nat → List (String × Json) → Bool
  | _, [] => true
  | levels, (_, x) :: rest => isSound levels x && haveSound levels rest

end

end Json

end NetworkTuning
