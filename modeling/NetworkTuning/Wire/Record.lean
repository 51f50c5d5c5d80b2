import NetworkTuning.Decimal.Natural
import NetworkTuning.Json.Value

/-!
# Records in data documents

A record is written as an object of its fields. It is read from an object, in which each field may
occur once and other members do not count, or from a list of the fields in their order. What an
absent field means is up to the field.
-/

namespace NetworkTuning.Json

/-- A whole number below a bound. -/
def below? (bound : Nat) : Json → Option Nat
  | int n => if 0 ≤ n ∧ n < bound then some n.toNat else none
  | _ => none

/-- A 64-bit word. -/
def word64? (x : Json) : Option UInt64 := (x.below? UInt64.size).map Nat.toUInt64

/-- A 32-bit word. -/
def word32? (x : Json) : Option UInt32 := (x.below? UInt32.size).map Nat.toUInt32

/-- A 16-bit word. -/
def word16? (x : Json) : Option UInt16 := (x.below? UInt16.size).map Nat.toUInt16

/-- A count. -/
def count? (x : Json) : Option Nat := x.below? UInt64.size

/-- A whole number of the signed 64-bit range. -/
def signed64? : Json → Option Int
  | int n => if -(Decimal.signed64Size : Int) ≤ n ∧ n < Decimal.signed64Size then some n else none
  | _ => none

/-- A real number; a whole number is one too. -/
def real? : Json → Option Float
  | float x => some x
  | int n => some (Float.ofInt n)
  | _ => none

/-- A truth value. -/
def flag? : Json → Option Bool
  | bool b => some b
  | _ => none

/-- A text. -/
def text? : Json → Option String
  | text s => some s
  | _ => none

/-- A value that may be `null`. -/
def nullable? {α : Type} (read : Json → Option α) : Json → Option (Option α)
  | null => some none
  | x => (read x).map some

/-- A list of values. -/
def list? {α : Type} (read : Json → Option α) : Json → Option (List α)
  | list items => items.mapM read
  | _ => none

/-- A value by its name, or by an object whose one member of that name is `null`. -/
def named? {α : Type} (names : List (String × α)) : Json → Option α
  | text s => (names.find? fun n => n.1 = s).map Prod.snd
  | object [(s, null)] => (names.find? fun n => n.1 = s).map Prod.snd
  | _ => none

/-- What a document holds for a field. -/
inductive Field where
  | given (value : Json)
  /-- No member of the object has the field's name. -/
  | unnamed
  /-- The list ends before the field's place. -/
  | beyond
  deriving Inhabited

/-- The fields of a record by their names. A name that occurs twice is refused, and so is a list
with more items than names. -/
def fields? (names : List String) : Json → Option (List Field)
  | object members =>
    if names.all fun n => members.countP (fun m => m.1 = n) ≤ 1 then
      some (names.map fun n =>
        match (object members).member? n with
        | some x => .given x
        | none => .unnamed)
    else none
  | list items =>
    if items.length ≤ names.length then
      some (items.map Field.given ++ List.replicate (names.length - items.length) .beyond)
    else none
  | _ => none

namespace Field

variable {α : Type}

/-- A field that must be there. -/
def required? (read : Json → Option α) : Field → Option α
  | given x => read x
  | _ => none

/-- A field that may be `null`, and in an object may be absent. -/
def optional? (read : Json → Option α) : Field → Option (Option α)
  | given x => nullable? read x
  | unnamed => some none
  | beyond => none

/-- A field that may be absent everywhere. -/
def withDefault? (default : α) (read : Json → Option α) : Field → Option α
  | given x => read x
  | _ => some default

end Field

end NetworkTuning.Json
