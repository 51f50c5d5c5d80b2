import NetworkTuning.Decimal.Natural
import NetworkTuning.Text.Utf8
import NetworkTuning.Web.Domain
import NetworkTuning.Web.Escape

/-!
# Hosts

A host is a name, a number of 32 bits, or a number of 128 bits. The short number is written in up to
four parts with points between them, and any name that ends in a number must be one. The long number
is written between brackets, in eight groups with colons between them, of which one run of zeros may
be left out.
-/

namespace NetworkTuning.Web

/-- Why a text is no address, or cannot be continued by a path. -/
inductive AddressError where
  | noScheme
  | emptyHost
  | badPort
  | badShortNumber
  | badLongNumber
  | badNameCharacter
  | badDomain
  | noBase
  deriving Repr, DecidableEq, Inhabited

/-- The wording of a refusal. -/
def AddressError.message : AddressError → String
  | noScheme => "relative URL without a base"
  | emptyHost => "empty host"
  | badPort => "invalid port number"
  | badShortNumber => "invalid IPv4 address"
  | badLongNumber => "invalid IPv6 address"
  | badNameCharacter => "invalid domain character"
  | badDomain => "invalid international domain name"
  | noBase => "relative URL with a cannot-be-a-base base"

/-- A host. -/
inductive Host where
  | name (text : String)
  | short (number : Nat)
  /-- A number of 128 bits in groups of 16. -/
  | long (groups : List Nat)
  deriving Repr, DecidableEq, Inhabited

namespace Host

/-- A part of a short number: decimal, octal after a zero, hexadecimal after `0x`. -/
def part? (cs : List Char) : Option Nat :=
  let inBase (base : Nat) (ds : List Char) : Option Nat :=
    ds.foldl
      (fun acc c => acc.bind fun n => (Json.hexValue? c).bind fun d =>
        if d < base then some (base * n + d) else none)
      (some 0)
  match cs with
  | [] => none
  | '0' :: 'x' :: ds => inBase 16 ds
  | '0' :: 'X' :: ds => inBase 16 ds
  | '0' :: d :: ds => inBase 8 (d :: ds)
  | ds => inBase 10 ds

/-- The parts of a name, without an empty one after a final point. -/
def partsOf (name : List Char) : List (List Char) :=
  let parts := Text.splitAll (· = '.') name
  if parts.getLast? = some [] ∧ parts.length ≠ 1 then parts.dropLast else parts

/-- Whether a name must be a short number: its last part is a number or has only digits. -/
def endsInNumber (name : List Char) : Bool :=
  match (partsOf name).getLast? with
  | some last => !last.isEmpty && (last.all Char.isDigit || (part? last).isSome)
  | none => false

/-- The short number that a name is: all parts but the last are bytes, the last fills the rest. -/
def short? (name : List Char) : Option Nat := do
  let numbers ← (partsOf name).mapM part?
  let last := numbers.getLast?.getD 0
  let bytes := numbers.dropLast
  if bytes.length ≤ 3 ∧ bytes.all (· < 256) ∧ last < Nat.pow 256 (4 - bytes.length) then
    some (bytes.foldr (fun b n => b * 0x1000000 + n / 256) 0 + last)
  else none

/-- The two groups that a short number of four decimal bytes stands for. -/
def quad? (cs : List Char) : Option (List Nat) := do
  let bytes ← (Text.splitAll (· = '.') cs).mapM fun ds =>
    if ds.isEmpty ∨ (ds.length ≠ 1 ∧ ds.head? = some '0') then none
    else (Decimal.digitsValue? 0 ds).filter (· < 256)
  match bytes with
  | [a, b, c, d] => some [256 * a + b, 256 * c + d]
  | _ => none

/-- A group of one to four hexadecimal digits. -/
def group? (cs : List Char) : Option Nat := do
  let digits ← cs.mapM Json.hexValue?
  if digits.isEmpty ∨ 4 < digits.length then none
  else some (digits.foldl (fun n d => 16 * n + d) 0)

/-- Groups with colons between them; `ends` says whether a short number may stand for the last two.
-/
def groups? (ends : Bool) (cs : List Char) : Option (List Nat) := do
  let pieces := Text.splitAll (· = ':') cs
  let lastPiece := pieces.getLast?.getD []
  if cs.isEmpty then some []
  else if ends ∧ lastPiece.contains '.' then
    some ((← pieces.dropLast.mapM group?) ++ (← quad? lastPiece))
  else pieces.mapM group?

/-- The text before the first two colons in a row, and the text after them. -/
def splitGap? : List Char → Option (List Char × List Char)
  | ':' :: ':' :: rest => some ([], rest)
  | c :: rest => (splitGap? rest).map fun (before, after) => (c :: before, after)
  | [] => none

/-- The groups of a long number. -/
def long? (cs : List Char) : Option (List Nat) :=
  match splitGap? cs with
  | none => (groups? true cs).filter fun gs => gs.length = 8
  | some (before, after) => do
    let first ← groups? false before
    let last ← groups? true after
    let present := first.length + last.length
    if present ≤ 7 then some (first ++ List.replicate (8 - present) 0 ++ last) else none

/-- The host between brackets that a text is. -/
def bracketed (cs : List Char) : Except AddressError Host :=
  match if cs.getLast? = some ']' then long? cs.dropLast else none with
  | some groups => .ok (long groups)
  | none => .error .badLongNumber

/-- The host that a text is where names are domain names. -/
def ofDomain (cs : List Char) : Except AddressError Host :=
  match cs with
  | '[' :: rest => bracketed rest
  | _ =>
    match (Text.decode? (unescape cs)).bind fun s => Domain.toPlain? s.toList with
    | none => .error .badDomain
    | some [] => .error .emptyHost
    | some plain =>
      if endsInNumber plain then
        match short? plain with
        | some n => .ok (short n)
        | none => .error .badShortNumber
      else .ok (name (String.ofList plain))

/-- The host that a text is where names have no further meaning. -/
def ofAnything (cs : List Char) : Except AddressError Host :=
  match cs with
  | '[' :: rest => bracketed rest
  | _ =>
    if cs.any fun c => c = '\x00' || "\t\n\r #/:<>?@[\\]^|".toList.contains c then
      .error .badNameCharacter
    else .ok (name (String.ofList (escape [] cs)))

/-- Groups in hexadecimal with colons between them. -/
def groupsText (groups : List Nat) : String :=
  ":".intercalate (groups.map fun g => String.ofList (Nat.toDigits 16 g))

/-- How a host is written. The first of the longest runs of zeros in a long number is left out if
there are two or more. -/
def text : Host → String
  | name s => s
  | short n =>
    ".".intercalate ([n / 0x1000000, n / 0x10000 % 256, n / 256 % 256, n % 256].map toString)
  | long groups =>
    let runs := (List.range 8).map fun i => ((groups.drop i).takeWhile (· = 0)).length
    let longest := runs.foldl max 0
    let start := runs.idxOf longest
    if longest < 2 then "[" ++ groupsText groups ++ "]"
    else
      "[" ++ groupsText (groups.take start) ++ "::" ++ groupsText (groups.drop (start + longest)) ++
        "]"

end Host

end NetworkTuning.Web
