/-!
# Blanks, words and lines

Blanks are the characters with the Unicode property `White_Space`. A line ends with a line feed, and
a carriage return directly before it belongs to the line end; the last line end may be missing.
-/

namespace NetworkTuning.Text

/-- The characters with the property `White_Space`. -/
def isBlank (c : Char) : Bool :=
  let n := c.toNat
  (9 ≤ n && n ≤ 13) || n = 0x20 || n = 0x85 || n = 0xA0 || n = 0x1680 ||
    (0x2000 ≤ n && n ≤ 0x200A) || n = 0x2028 || n = 0x2029 || n = 0x202F || n = 0x205F || n = 0x3000

/-- A text without the blanks at its start. -/
def trimStart (cs : List Char) : List Char := cs.dropWhile isBlank

/-- A text without the blanks at its end. -/
def trimEnd (cs : List Char) : List Char := (cs.reverse.dropWhile isBlank).reverse

/-- A text without the blanks at both ends. -/
def trim (cs : List Char) : List Char := trimEnd (trimStart cs)

/-- The pieces between the characters that `stop` accepts; there is one more than such characters.
-/
def splitAll (stop : Char → Bool) : List Char → List (List Char)
  | [] => [[]]
  | c :: rest =>
    if stop c then [] :: splitAll stop rest
    else match splitAll stop rest with
      | [] => [[c]]
      | piece :: pieces => (c :: piece) :: pieces

/-- The words of a text: its maximal runs without blanks. -/
def words (cs : List Char) : List (List Char) :=
  (splitAll isBlank cs).filter fun piece => !piece.isEmpty

/-- A line without the carriage return that belongs to its end. -/
def withoutReturn (line : List Char) : List Char :=
  if line.getLast? = some '\r' then line.dropLast else line

/-- The lines of a text. The piece after the last line feed is a line only if it is not empty, and
keeps a carriage return at its end. -/
def lines (cs : List Char) : List (List Char) :=
  let pieces := splitAll (· = '\n') cs
  let last := pieces.getLast?.getD []
  pieces.dropLast.map withoutReturn ++ (if last.isEmpty then [] else [last])

/-- The text after `head`, if it starts with it. -/
def after? : List Char → List Char → Option (List Char)
  | [], cs => some cs
  | h :: head, c :: cs => if h = c then after? head cs else none
  | _ :: _, [] => none

/-- The text after the first occurrence of `needle`. -/
def afterFirst? (needle : List Char) : List Char → Option (List Char)
  | [] => after? needle []
  | c :: cs =>
    match after? needle (c :: cs) with
    | some rest => some rest
    | none => afterFirst? needle cs

end NetworkTuning.Text
