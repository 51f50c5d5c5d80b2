import NetworkTuning.Console.Ink

/-!
# Grids

A grid has a row of headings and rows of cells, framed by lines with rounded corners. Each column is
as wide as its widest cell, and cells are filled up with blanks on the right.
-/

namespace NetworkTuning.Console

/-- The width of a cell's text; control characters take no room. -/
def widthOf (cell : String) : Nat := cell.toList.countP fun c => 0x20 ≤ c.toNat && c.toNat ≠ 0x7F

/-- The widths of the columns of some rows. -/
def widths : List (List String) → List Nat
  | [] => []
  | [row] => row.map widthOf
  | row :: rest => List.zipWith max (row.map widthOf) (widths rest)

/-- A frame line: the start, a piece for each column with joints between them, and the end. -/
def frame (start joint finish : String) (columns : List Nat) : String :=
  let piece (width : Nat) : String := String.ofList (List.replicate (width + 2) '─')
  start ++ joint.intercalate (columns.map piece) ++ finish

/-- A cell filled up to a width, with a blank on both sides. -/
def cell (width : Nat) (text : String) : String :=
  " " ++ text ++ String.ofList (List.replicate (width - widthOf text) ' ') ++ " "

/-- A row of cells. -/
def row (columns : List Nat) (cells : List String) : String :=
  "│" ++ "│".intercalate (List.zipWith cell columns cells) ++ "│"

/-- A grid, a line for each of its rows and frame lines; without rows there is only a remark. -/
def grid (coloured : Bool) (headings : List String) (rows : List (List String)) : String :=
  if rows.isEmpty then line (paint coloured ⟨some .yellow, false⟩ "No items found")
  else
    let columns := widths (headings :: rows)
    String.join
      ([frame "╭" "┬" "╮" columns, row columns headings, frame "├" "┼" "┤" columns]
        ++ rows.map (row columns) ++ [frame "╰" "┴" "╯" columns] |>.map line)

end NetworkTuning.Console
