import NetworkTuning.Decimal.Fixed
import NetworkTuning.Health

/-!
# Text for the terminal

Ink is a colour and a weight. Where colours are off, inked text is the text itself; where they are
on, it stands between the terminal's codes for the ink and for plain text.
-/

namespace NetworkTuning.Console

/-- The colours in use. -/
inductive Colour where
  | red
  | green
  | yellow
  | blue
  | cyan
  deriving Repr, DecidableEq, Inhabited

/-- The terminal's code of a colour. -/
def Colour.code : Colour → String
  | red => "31"
  | green => "32"
  | yellow => "33"
  | blue => "34"
  | cyan => "36"

/-- A colour, if any, and whether the text is bold. -/
structure Ink where
  colour : Option Colour := none
  bold : Bool := false
  deriving Repr, DecidableEq, Inhabited

/-- The codes of an ink, the weight first. -/
def Ink.codes (ink : Ink) : List String :=
  (if ink.bold then ["1"] else []) ++ ink.colour.toList.map Colour.code

/-- Text in an ink, where `coloured` says whether colours are on. -/
def paint (coloured : Bool) (ink : Ink) (text : String) : String :=
  if coloured ∧ ink.codes ≠ [] then
    "\x1b[" ++ ";".intercalate ink.codes ++ "m" ++ text ++ "\x1b[0m"
  else text

/-- A headline. -/
def headline (coloured : Bool) (text : String) : String := paint coloured { bold := true } text

/-- A line. -/
def line (text : String) : String := text ++ "\n"

/-- The line under a headline. -/
def ruler : String := line (String.ofList (List.replicate 50 '='))

/-- A line that begins with a bold sign. -/
def signed (coloured : Bool) (colour : Colour) (sign text : String) : String :=
  line (paint coloured ⟨some colour, true⟩ sign ++ " " ++ text)

/-- A line that tells of success. -/
def success (coloured : Bool) (text : String) : String := signed coloured .green "✓" text

/-- A line that warns. -/
def warning (coloured : Bool) (text : String) : String := signed coloured .yellow "⚠" text

/-- A line that informs. -/
def info (coloured : Bool) (text : String) : String := signed coloured .blue "ℹ" text

/-- The colour of a status, known by its name in any case. -/
def statusColour? (status : String) : Option Colour :=
  let name := status.map Char.toLower
  if name = "healthy" ∨ name = "matched" then some .green
  else if name = "degraded" ∨ name = "missed" then some .yellow
  else if name = "unhealthy" then some .red
  else none

/-- A status in its colour. -/
def status (coloured : Bool) (text : String) : String :=
  paint coloured ⟨statusColour? text, false⟩ text

/-- A share of successes in percent: green from eighty on, yellow from fifty on, red below. -/
def successRate (coloured : Bool) (rate : Float) : String :=
  let colour : Colour := if 80.0 ≤ rate then .green else if 50.0 ≤ rate then .yellow else .red
  paint coloured ⟨some colour, false⟩ (Decimal.fixed 1 rate ++ "%")

/-- A rate in the largest unit that it fills, in steps of 1024. -/
def rate (bytes : UInt64) : String :=
  let inUnits (size : UInt64) (name : String) : String :=
    Decimal.fixed 2 (bytes.toFloat / size.toFloat) ++ " " ++ name
  if 1073741824 ≤ bytes then inUnits 1073741824 "GiB/s"
  else if 1048576 ≤ bytes then inUnits 1048576 "MiB/s"
  else if 1024 ≤ bytes then inUnits 1024 "KiB/s"
  else toString bytes.toNat ++ " B/s"

/-- A rate that may be unknown. -/
def rateOrDash : Option UInt64 → String
  | some bytes => rate bytes
  | none => "-"

end NetworkTuning.Console
