import NetworkTuning.Json.Number
import NetworkTuning.Json.Value

/-!
# Reading a data document

The whole text must be one value with blanks around it. What is written by the rules is read, even
where it stands for nothing; a reader that has no use for such a part can pass it over.
-/

namespace NetworkTuning.Json

/-- The blanks between the parts of a document. -/
def isSpace (c : Char) : Bool := c = ' ' || c = '\n' || c = '\t' || c = '\r'

/-- The text without the blanks at its start. -/
def skip (cs : List Char) : List Char := cs.dropWhile isSpace

/-- The value of a hexadecimal digit. -/
def hexValue? (c : Char) : Option Nat :=
  if '0' ≤ c ∧ c ≤ '9' then some (c.toNat - '0'.toNat)
  else if 'a' ≤ c ∧ c ≤ 'f' then some (c.toNat - 'a'.toNat + 10)
  else if 'A' ≤ c ∧ c ≤ 'F' then some (c.toNat - 'A'.toNat + 10)
  else none

/-- The 16-bit unit that four hexadecimal digits spell. -/
def unit? : List Char → Option (Nat × List Char)
  | a :: b :: c :: d :: rest => do
    let a ← hexValue? a
    let b ← hexValue? b
    let c ← hexValue? c
    let d ← hexValue? d
    some (((a * 16 + b) * 16 + c) * 16 + d, rest)
  | _ => none

/-- The code that the characters after a backslash spell, and what comes after them. It is a code
point, or one of a pair of 16-bit units. -/
def escape? : List Char → Option (Nat × List Char)
  | '"' :: rest => some (0x22, rest)
  | '\\' :: rest => some (0x5C, rest)
  | '/' :: rest => some (0x2F, rest)
  | 'b' :: rest => some (0x08, rest)
  | 'f' :: rest => some (0x0C, rest)
  | 'n' :: rest => some (0x0A, rest)
  | 'r' :: rest => some (0x0D, rest)
  | 't' :: rest => some (0x09, rest)
  | 'u' :: rest => unit? rest
  | _ => none

/-- The characters that codes spell. The units of a pair spell one character together; a unit of a
pair alone spells none. -/
def spelled? : List Nat → Option (List Char)
  | [] => some []
  | [code] => if 0xD800 ≤ code ∧ code < 0xE000 then none else some [Char.ofNat code]
  | code :: next :: rest =>
    if 0xD800 ≤ code ∧ code < 0xDC00 then
      if 0xDC00 ≤ next ∧ next < 0xE000 then
        (spelled? rest).map (Char.ofNat (0x10000 + (code - 0xD800) * 0x400 + (next - 0xDC00)) :: ·)
      else none
    else if 0xDC00 ≤ code ∧ code < 0xE000 then none
    else (spelled? (next :: rest)).map (Char.ofNat code :: ·)

/-- The rest of a text up to its closing quote, the codes so far in reverse: its codes, and what
comes after it. -/
def codes? : Nat → List Nat → List Char → Option (List Nat × List Char)
  | 0, _, _ => none
  | _ + 1, _, [] => none
  | _ + 1, acc, '"' :: rest => some (acc.reverse, rest)
  | fuel + 1, acc, '\\' :: rest =>
    match escape? rest with
    | some (code, rest) => codes? fuel (code :: acc) rest
    | none => none
  | fuel + 1, acc, c :: rest =>
    if c.toNat < 0x20 then none else codes? fuel (c.toNat :: acc) rest

/-- The text up to a closing quote, if it stands for one, and what comes after it. -/
def string? (cs : List Char) : Option (Option String × List Char) :=
  (codes? (cs.length + 1) [] cs).map fun (codes, rest) =>
    ((spelled? codes).map String.ofList, rest)

/-- The text after a given word. -/
def word? : List Char → List Char → Option (List Char)
  | [], cs => some cs
  | w :: word, c :: cs => if w = c then word? word cs else none
  | _ :: _, [] => none

/-- An object of members, each of which must have a name that stands for one. -/
def objectOf (members : List (Option String × Json)) : Json :=
  match members.mapM fun m => m.1.map fun name => (name, m.2) with
  | some members => object members
  | none => unreadable

mutual

/-- The value at the start of a text. -/
def value? : Nat → List Char → Option (Json × List Char)
  | 0, _ => none
  | fuel + 1, cs =>
    match skip cs with
    | [] => none
    | 'n' :: rest => (word? ['u', 'l', 'l'] rest).map fun r => (null, r)
    | 't' :: rest => (word? ['r', 'u', 'e'] rest).map fun r => (bool true, r)
    | 'f' :: rest => (word? ['a', 'l', 's', 'e'] rest).map fun r => (bool false, r)
    | '"' :: rest => (string? rest).map fun (s, r) => ((s.map text).getD unreadable, r)
    | '[' :: rest =>
      match skip rest with
      | ']' :: r => some (list [], r)
      | r => (items? fuel r).map fun (xs, r) => (list xs, r)
    | '\x7b' :: rest =>
      match skip rest with
      | '\x7d' :: r => some (object [], r)
      | r => (members? fuel r).map fun (ms, r) => (objectOf ms, r)
    | cs =>
      match number? cs with
      | some (.whole n, r) => some (int n, r)
      | some (.real x, r) => some (float x, r)
      | some (.tooLarge, r) => some (unreadable, r)
      | none => none

/-- The items of a list up to its closing bracket. -/
def items? : Nat → List Char → Option (List Json × List Char)
  | 0, _ => none
  | fuel + 1, cs =>
    match value? fuel cs with
    | none => none
    | some (x, r) =>
      match skip r with
      | ']' :: r => some ([x], r)
      | ',' :: r => (items? fuel r).map fun (xs, r) => (x :: xs, r)
      | _ => none

/-- The members of an object up to its closing brace. -/
def members? : Nat → List Char → Option (List (Option String × Json) × List Char)
  | 0, _ => none
  | fuel + 1, cs =>
    match skip cs with
    | '"' :: r =>
      match string? r with
      | none => none
      | some (name, r) =>
        match skip r with
        | ':' :: r =>
          match value? fuel r with
          | none => none
          | some (x, r) =>
            match skip r with
            | '\x7d' :: r => some ([(name, x)], r)
            | ',' :: r => (members? fuel r).map fun (ms, r) => ((name, x) :: ms, r)
            | _ => none
        | _ => none
    | _ => none

end

/-- The value that a whole text is written as. -/
def read? (document : String) : Option Json :=
  let cs := document.toList
  match value? (2 * cs.length + 2) cs with
  | some (x, rest) => if (skip rest).isEmpty then some x else none
  | none => none

/-- How many lists and objects may lie within each other in a sound document. -/
def levelLimit : Nat := 127

/-- The value that a whole text denotes, every part of which must stand for something. -/
def readSound? (document : String) : Option Json := (read? document).filter (isSound levelLimit)

end NetworkTuning.Json
