import NetworkTuning.Json.Reader

/-!
# Escaped bytes

In an address a percent sign and two hexadecimal digits stand for a byte. Control characters, all
characters outside ASCII, and those with a meaning of their own in some part of an address are
written so, byte by byte.
-/

namespace NetworkTuning.Web

/-- A byte as an escape. -/
def escapeByte (b : UInt8) : List Char :=
  ['%', (Nat.digitChar (b.toNat / 16)).toUpper, (Nat.digitChar (b.toNat % 16)).toUpper]

/-- A text with the characters escaped that cannot stand for themselves, `special` ones among them.
-/
def escape (special : List Char) (cs : List Char) : List Char :=
  cs.flatMap fun c =>
    if c.toNat < 0x20 ∨ 0x7F ≤ c.toNat ∨ special.contains c then
      (String.utf8EncodeChar c).flatMap escapeByte
    else [c]

/-- The bytes that a text stands for. -/
def unescape : List Char → List UInt8
  | '%' :: a :: b :: rest =>
    match Json.hexValue? a, Json.hexValue? b with
    | some x, some y => (16 * x + y).toUInt8 :: unescape rest
    | _, _ => 0x25 :: unescape (a :: b :: rest)
  | c :: rest => String.utf8EncodeChar c ++ unescape rest
  | [] => []

/-- The characters of a path that are escaped. -/
def pathSpecials : List Char := " \"<>`#?\x7b\x7d".toList

/-- The characters of a user's name or password that are escaped. -/
def userSpecials : List Char := pathSpecials ++ "/:;=@[\\]^|".toList

end NetworkTuning.Web
