import NetworkTuning.Text.Composition
import NetworkTuning.Text.Direction
import NetworkTuning.Text.Joining
import NetworkTuning.Web.Punycode
import NetworkTuning.Web.Spelling

/-!
# Domain names

A domain name consists of labels with points between them. Before names are used, they are brought
into one spelling and composed form, and labels with characters outside ASCII are written in plain
letters behind `xn--`. A label already written so must stand for one that could be.
-/

namespace NetworkTuning.Web.Domain

/-- The ASCII characters that no domain name may contain. -/
def isForbidden (c : Char) : Bool :=
  c.toNat ≤ 0x20 || c.toNat = 0x7F || "#/:<>?@[\\]^|%".toList.contains c

/-- The joiner that keeps letters apart, and the one that joins them. -/
def isJoiner (c : Char) : Bool := c = '\u200C' || c = '\u200D'

/-- Whether a joiner may stand between what comes before it, backwards, and what comes after it:
behind a mark that takes the vowel from a consonant, and, if it keeps letters apart, also between
letters that would be joined. -/
def joinerFits (joiner : Char) (before after : List Char) : Bool :=
  match before with
  | [] => false
  | c :: _ =>
    Text.markClass c = 9 ||
      (joiner = '\u200C' &&
        ((before.dropWhile Text.isNonspacing).head?.map Text.joinsNext).getD false &&
        ((after.dropWhile Text.isNonspacing).head?.map Text.joinsPrevious).getD false)

/-- Whether all joiners of a label fit; `before` is what comes before it, backwards. -/
def joinersFit (before : List Char) : List Char → Bool
  | [] => true
  | c :: rest => (!isJoiner c || joinerFits c before rest) && joinersFit (c :: before) rest

/-- Whether a character is written from the right, or as in Arabic. -/
def isFromRight (c : Char) : Bool :=
  match Text.direction c with
  | .fromRight | .arabic | .arabicNumber => true
  | _ => false

/-- Whether the directions of a label's characters go together: it begins with a letter, all of it
goes the way of that letter, its last character apart from marks is a letter or a number, and it
does not mix numbers of two kinds. -/
def directionsFit (label : List Char) : Bool :=
  let directions := label.map Text.direction
  let last := (directions.reverse.dropWhile (· = .mark)).head?
  match directions.head? with
  | none => true
  | some .fromLeft =>
    !label.any isFromRight && (last = some .fromLeft || last = some .number)
  | some .fromRight | some .arabic =>
    !directions.contains .fromLeft &&
      (last = some .fromRight || last = some .arabic || last = some .number ||
        last = some .arabicNumber) &&
      !(directions.contains .number && directions.contains .arabicNumber)
  | some _ => false

/-- Whether a character is plain ASCII. -/
def isAscii (c : Char) : Bool := c.toNat < 128

/-- The start of a label in plain letters. -/
def mark : List Char := ['x', 'n', '-', '-']

/-- A label in one spelling, the characters it stands for, unless it is at fault. -/
def readLabel? (label : List Char) : Option (List Char) :=
  if label.take 4 = mark then
    if label.all isAscii then
      (Punycode.decode? (label.drop 4)).filter fun name =>
        !name.all isAscii && Text.compose name = name &&
          name.all fun c => respell? c = some [c]
    else none
  else some label

/-- Whether a label that is not all ASCII is in order. -/
def labelFits (name : List Char) : Bool :=
  name.all isAscii ||
    (!(name.head?.map Text.isMark).getD false && joinersFit [] name && name.take 4 ≠ mark)

/-- A label in plain letters. -/
def writeLabel (name : List Char) : List Char :=
  if name.all isAscii then name else mark ++ Punycode.encode name

/-- A domain name in plain letters, unless it is at fault. -/
def toPlain? (name : List Char) : Option (List Char) := do
  let spelled ← name.mapM respell?
  let composed := Text.compose spelled.flatten
  let labels ← (Text.splitAll (· = '.') composed).mapM readLabel?
  let mixed := labels.any fun label => label.any isFromRight
  if composed.any isForbidden ∨ !labels.all labelFits ∨ (mixed ∧ !labels.all directionsFit) then
    none
  else some (['.'].intercalate (labels.map writeLabel))

end NetworkTuning.Web.Domain
