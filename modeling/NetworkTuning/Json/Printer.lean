import NetworkTuning.Decimal.Shortest
import NetworkTuning.Json.Value

/-!
# Writing a data document

A document is written on one line, or with one item to a line and two blanks for each level. Numbers
that are not finite have no spelling and are written as `null`.
-/

namespace NetworkTuning.Json

/-- How a character is spelled inside a text value. -/
def spell (c : Char) : List Char :=
  if c = '"' then ['\\', '"']
  else if c = '\\' then ['\\', '\\']
  else if c = '\x08' then ['\\', 'b']
  else if c = '\x0c' then ['\\', 'f']
  else if c = '\n' then ['\\', 'n']
  else if c = '\r' then ['\\', 'r']
  else if c = '\t' then ['\\', 't']
  else if c.toNat < 0x20 then
    let ds := Nat.toDigits 16 c.toNat
    ['\\', 'u'] ++ List.replicate (4 - ds.length) '0' ++ ds
  else [c]

/-- A text value with its quotes. -/
def quote (s : String) : String := String.ofList ('"' :: (s.toList.flatMap spell ++ ['"']))

mutual

/-- A value on one line. -/
def compact : Json → String
  | null | unreadable => "null"
  | bool b => if b then "true" else "false"
  | int n => toString n
  | float x => Decimal.scientific x
  | text s => quote s
  | list items => "[" ++ compactItems items ++ "]"
  | object members => "\x7b" ++ compactMembers members ++ "\x7d"

/-- The items of a list with commas between them. -/
def compactItems : List Json → String
  | [] => ""
  | [x] => compact x
  | x :: rest => compact x ++ "," ++ compactItems rest

/-- The members of an object with commas between them. -/
def compactMembers : List (String × Json) → String
  | [] => ""
  | [(name, x)] => quote name ++ ":" ++ compact x
  | (name, x) :: rest => quote name ++ ":" ++ compact x ++ "," ++ compactMembers rest

end

/-- The start of a line at a level. -/
def indent (level : Nat) : String := "\n" ++ String.ofList (List.replicate (2 * level) ' ')

mutual

/-- A value with one item to a line, standing at a level. -/
def pretty (level : Nat) : Json → String
  | null | unreadable => "null"
  | bool b => if b then "true" else "false"
  | int n => toString n
  | float x => Decimal.scientific x
  | text s => quote s
  | list [] => "[]"
  | list (x :: rest) => "[" ++ prettyItems (level + 1) (x :: rest) ++ indent level ++ "]"
  | object [] => "\x7b\x7d"
  | object (m :: rest) =>
    "\x7b" ++ prettyMembers (level + 1) (m :: rest) ++ indent level ++ "\x7d"

/-- The items of a list, each on its line. -/
def prettyItems (level : Nat) : List Json → String
  | [] => ""
  | [x] => indent level ++ pretty level x
  | x :: rest => indent level ++ pretty level x ++ "," ++ prettyItems level rest

/-- The members of an object, each on its line. -/
def prettyMembers (level : Nat) : List (String × Json) → String
  | [] => ""
  | [(name, x)] => indent level ++ quote name ++ ": " ++ pretty level x
  | (name, x) :: rest =>
    indent level ++ quote name ++ ": " ++ pretty level x ++ "," ++ prettyMembers level rest

end

end NetworkTuning.Json
