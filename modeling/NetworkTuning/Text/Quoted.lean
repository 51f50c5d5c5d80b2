import NetworkTuning.Text.Glyphless

/-!
# Quoted text in messages

A text inside a message stands between double quotes. A quote and a backslash get a backslash in
front, the usual control characters their letter, and every other character without a glyph of its
own its code point in hexadecimal.
-/

namespace NetworkTuning.Text

/-- How one character is spelled between the quotes. -/
def spell (c : Char) : List Char :=
  if c = '\x00' then ['\\', '0']
  else if c = '\t' then ['\\', 't']
  else if c = '\r' then ['\\', 'r']
  else if c = '\n' then ['\\', 'n']
  else if c = '"' ∨ c = '\\' then ['\\', c]
  else if isGlyphless c then
    '\\' :: 'u' :: '\x7b' :: (Nat.toDigits 16 c.toNat ++ ['\x7d'])
  else [c]

/-- A text between double quotes. -/
def quoted (text : String) : String :=
  String.ofList ('"' :: (text.toList.flatMap spell ++ ['"']))

end NetworkTuning.Text
