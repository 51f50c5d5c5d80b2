import NetworkTuning.Profile.Column

/-!
# Room for rows

The rows of a list stand side by side in memory, and the room for them is asked for all at once. How
much there is depends on the machine, but no list ever takes more than 2^63 - 1 bytes.
-/

namespace NetworkTuning

/-- How many bytes a profile takes: its values side by side, filled up to a whole word. -/
def Profile.bytes : Nat := (Column.all.foldl (fun n c => n + c.width.bytes) 0 + 7) / 8 * 8

/-- The most rows that any machine has room for in one list. -/
def mostRows : Nat := (UInt64.size / 2 - 1) / Profile.bytes

/-- A machine's memory, by the number of rows that it has room for in one list. -/
structure Memory where
  rows : Nat
  bounded : rows ≤ mostRows

/-- The memory of a machine that has room for any list. -/
def Memory.ample : Memory := ⟨mostRows, Nat.le_refl _⟩

end NetworkTuning
