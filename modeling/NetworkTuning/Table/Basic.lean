import NetworkTuning.Profile.Basic

/-!
# The table of profiles

A table holds profiles in ascending order of their keys, no key twice, and never more of them than
its capacity, which is fixed when the table is made. Every operation that cannot be carried out
leaves the table as it is and says why.
-/

namespace NetworkTuning

/-- Profiles by ascending key, up to a fixed capacity. -/
structure Table where
  rows : Array Profile := #[]
  capacity : Nat := 0
  deriving Inhabited

/-- Why a table refuses. -/
inductive TableError where
  /-- The key is in the table already. -/
  | duplicateKey (key : UInt64)
  /-- There is no free place. -/
  | full (capacity : Nat)
  /-- There is no such place. -/
  | outOfRange (index size : Nat)
  deriving Repr, DecidableEq, Inhabited

/-- The wording of a refusal. -/
def TableError.message : TableError → String
  | duplicateKey key => s!"transfer rate {key} is already in the table"
  | full capacity => s!"table is full ({capacity} entries)"
  | outOfRange index size => s!"index {index} is out of range for a table of {size} entries"

namespace Table

/-- An empty table with room for `capacity` profiles. -/
def ofCapacity (capacity : Nat) : Table := ⟨#[], capacity⟩

/-- The number of profiles. -/
def size (t : Table) : Nat := t.rows.size

/-- Whether every place is taken. -/
def isFull (t : Table) : Bool := t.capacity ≤ t.rows.size

/-- The keys, in order. -/
def keys (t : Table) : List UInt64 := t.rows.toList.map Profile.key

/-- The smallest key. -/
def minKey? (t : Table) : Option UInt64 := t.rows[0]?.map Profile.key

/-- The largest key. -/
def maxKey? (t : Table) : Option UInt64 := t.rows[t.rows.size - 1]?.map Profile.key

/-- Where `key` belongs among profiles in order, counted from `index` on. -/
def scan (key : UInt64) : Nat → List Profile → Except TableError Nat
  | index, [] => .ok index
  | index, p :: rest =>
    if key < p.key then .ok index
    else if p.key = key then .error (.duplicateKey key)
    else scan key (index + 1) rest

/-- The place at which a new key keeps the order. -/
def place (t : Table) (key : UInt64) : Except TableError Nat := scan key 0 t.rows.toList

/-- Opens a place: the profiles from `index` on move up by one, and an all-zero profile stands
there. -/
def openAt (t : Table) (index : Nat) : Except TableError Table :=
  if t.isFull then .error (.full t.capacity)
  else if t.rows.size < index then .error (.outOfRange index t.rows.size)
  else .ok { t with rows := t.rows.insertIdxIfInBounds index {} }

/-- Puts a profile in an open place. -/
def setAt (t : Table) (index : Nat) (p : Profile) : Table :=
  { t with rows := t.rows.setIfInBounds index p }

/-- Opens a place and puts a profile there. -/
def insertAt (t : Table) (index : Nat) (p : Profile) : Except TableError Table :=
  (t.openAt index).map fun opened => opened.setAt index p

/-- A profile fits a place when the keys on both sides leave room for its own. -/
def Fits (t : Table) (index : Nat) (p : Profile) : Prop :=
  (∀ left, 0 < index → t.rows[index - 1]? = some left → left.key < p.key) ∧
    (∀ right, t.rows[index]? = some right → p.key < right.key)

/-- Inserts a profile where its key belongs, and tells where that is. -/
def insert (t : Table) (p : Profile) : Except TableError (Table × Nat) :=
  if t.isFull then .error (.full t.capacity)
  else do
    let index ← t.place p.key
    let grown ← t.insertAt index p
    return (grown, index)

/-- The profile before a place. -/
def leftOf? (t : Table) (index : Nat) : Option Profile :=
  if index = 0 then none else t.rows[index - 1]?

/-- The profile at and after a place. -/
def rightOf? (t : Table) (index : Nat) : Option Profile := t.rows[index]?

/-- A table of the profiles that can be inserted, in the order given; the others are left out. -/
def ofList (capacity : Nat) (profiles : List Profile) : Table :=
  profiles.foldl
    (fun t p => match t.insert p with
      | .ok (grown, _) => grown
      | .error _ => t)
    (ofCapacity capacity)

end Table

end NetworkTuning
