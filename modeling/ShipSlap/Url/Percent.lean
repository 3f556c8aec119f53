import ShipSlap.Bytes.Basic
/-!
Percent-decoding: `%` and two hexadecimal digits stand for the byte they spell; a `%` that is
not followed by two hexadecimal digits stands for itself.
-/
namespace ShipSlap.Url

/-- The value of a hexadecimal digit byte, either case. -/
def hexDigitValue? (b : UInt8) : Option Nat :=
  if 48 ≤ b ∧ b ≤ 57 then some (b.toNat - 48)
  else if 97 ≤ b ∧ b ≤ 102 then some (b.toNat - 87)
  else if 65 ≤ b ∧ b ≤ 70 then some (b.toNat - 55)
  else none

/-- Replaces every `%` with two hexadecimal digits by the byte they spell. -/
def percentDecode : Bytes → Bytes
  | [] => []
  | 37 :: h :: l :: tail =>
    match hexDigitValue? h, hexDigitValue? l with
    | some hi, some lo => UInt8.ofNat (16 * hi + lo) :: percentDecode tail
    | _, _ => 37 :: percentDecode (h :: l :: tail)
  | b :: rest => b :: percentDecode rest

end ShipSlap.Url
