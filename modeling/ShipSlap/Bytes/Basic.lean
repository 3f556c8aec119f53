/-!
Byte strings. A byte string is a list of bytes; where it stands for a number it is read
most significant byte first. Main statements: `Bytes.toNat_ofNat` (a number below
`256 ^ w` survives a round trip through `w` bytes) and `Bytes.length_ofNat`.
-/
namespace ShipSlap

/-- A byte string. -/
abbrev Bytes := List UInt8

namespace Bytes

/-- The number a byte string spells, most significant byte first. -/
def toNat (bs : Bytes) : Nat :=
  bs.foldl (fun acc b => acc * 256 + b.toNat) 0

theorem toNat_eq (bs : Bytes) : toNat bs = bs.foldl (fun acc b => acc * 256 + b.toNat) 0 := rfl

/-- The low `w` bytes of `n`, most significant first. -/
def ofNat : Nat → Nat → Bytes
  | 0, _ => []
  | w + 1, n => ofNat w (n / 256) ++ [UInt8.ofNat (n % 256)]

theorem ofNat_zero (n : Nat) : ofNat 0 n = [] := rfl

theorem ofNat_succ (w n : Nat) : ofNat (w + 1) n = ofNat w (n / 256) ++ [UInt8.ofNat (n % 256)] :=
  rfl

@[simp] theorem length_ofNat (w n : Nat) : (ofNat w n).length = w := by
  induction w generalizing n with
  | zero => rfl
  | succ w ih => simp [ofNat_succ, ih]

theorem toNat_append_byte (bs : Bytes) (b : UInt8) :
    toNat (bs ++ [b]) = toNat bs * 256 + b.toNat := by
  simp [toNat_eq, List.foldl_append]

theorem toNat_ofNat (w n : Nat) : toNat (ofNat w n) = n % Nat.pow 256 w := by
  rw [Nat.pow_eq]
  induction w generalizing n with
  | zero => simp [ofNat_zero, toNat_eq, Nat.mod_one]
  | succ w ih =>
    have byte : (UInt8.ofNat (n % 256)).toNat = n % 256 := by simp
    rw [ofNat_succ, toNat_append_byte, ih, byte]
    rw [Nat.pow_succ, Nat.mul_comm (256 ^ w) 256, Nat.mod_mul]
    omega

/-- The digit characters of hexadecimal, lowercase. -/
def hexDigit (n : Nat) : Char :=
  if n < 10 then Char.ofNat (48 + n) else Char.ofNat (87 + n)

/-- Two lowercase hexadecimal digits for one byte. -/
def byteHex (b : UInt8) : List Char :=
  [hexDigit (b.toNat / 16), hexDigit (b.toNat % 16)]

/-- Lowercase hexadecimal text of a byte string, two digits per byte. -/
def toHex (bs : Bytes) : String :=
  String.ofList (bs.flatMap byteHex)

/-- The bytes of a text in UTF-8. -/
def ofString (s : String) : Bytes :=
  s.toUTF8.toList

end Bytes

end ShipSlap
