/-!
# Text in bytes

Bytes are decoded as UTF-8 one character at a time. Where no character can be read, the bytes that
could still have begun one are skipped together and count as one fault.
-/

namespace NetworkTuning.Text

/-- The first byte of a character: how many bytes follow it, the bits it contributes, and the range
in which the second byte must lie. -/
def leading? (b : UInt8) : Option (Nat × Nat × UInt8 × UInt8) :=
  if b < 0x80 then some (0, b.toNat, 0, 0)
  else if 0xC2 ≤ b ∧ b ≤ 0xDF then some (1, b.toNat - 0xC0, 0x80, 0xBF)
  else if b = 0xE0 then some (2, 0, 0xA0, 0xBF)
  else if b = 0xED then some (2, 0xD, 0x80, 0x9F)
  else if 0xE1 ≤ b ∧ b ≤ 0xEF then some (2, b.toNat - 0xE0, 0x80, 0xBF)
  else if b = 0xF0 then some (3, 0, 0x90, 0xBF)
  else if 0xF1 ≤ b ∧ b ≤ 0xF3 then some (3, b.toNat - 0xF0, 0x80, 0xBF)
  else if b = 0xF4 then some (3, 4, 0x80, 0x8F)
  else none

/-- Takes in the bytes after the first, as far as they fit: the character if all do, and how many
bytes were taken. -/
def continuation (low high : UInt8) (bits : Nat) : Nat → List UInt8 → Option Char × Nat
  | 0, _ => (some (Char.ofNat bits), 0)
  | _ + 1, [] => (none, 0)
  | more + 1, b :: rest =>
    if low ≤ b ∧ b ≤ high then
      let (c, taken) := continuation 0x80 0xBF (bits * 64 + (b.toNat - 0x80)) more rest
      (c, taken + 1)
    else (none, 0)

/-- The characters of a byte sequence, `none` for each fault; `skipped` bytes are passed over. -/
def decodeFrom : Nat → List UInt8 → List (Option Char)
  | _, [] => []
  | skipped + 1, _ :: rest => decodeFrom skipped rest
  | 0, b :: rest =>
    match leading? b with
    | none => none :: decodeFrom 0 rest
    | some (more, bits, low, high) =>
      let (c, taken) := continuation low high bits more rest
      c :: decodeFrom taken rest

/-- The text of a byte sequence, unless some bytes are no text. -/
def decode? (bytes : List UInt8) : Option String :=
  ((decodeFrom 0 bytes).mapM id).map String.ofList

/-- The text of a byte sequence with a replacement character for each fault. -/
def decodeLossy (bytes : List UInt8) : String :=
  String.ofList ((decodeFrom 0 bytes).map fun c => c.getD '\uFFFD')

end NetworkTuning.Text
