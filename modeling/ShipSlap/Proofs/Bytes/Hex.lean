import ShipSlap.Bytes.Hex
import ShipSlap.Proofs.Text.Utf8
/-!
Hexadecimal text reads back: `Hex.decode (Bytes.toHex bs) = .ok bs` (`Hex.decode_toHex`), so two
byte strings have the same hexadecimal text only when they are equal (`Bytes.toHex_inj`).

A byte is written as two digit characters, both ASCII, so each is one UTF-8 byte, which the
reader takes back to the digit's value; the two values give the byte back.
-/
namespace ShipSlap

/-- A hexadecimal digit is one UTF-8 byte, read back as the digit's value. -/
theorem digitValue_hexDigit : ∀ n, n < 16 →
    (String.utf8EncodeChar (Bytes.hexDigit n)).map Hex.digitValue = [some n.toUInt8] := by
  decide

/-- The UTF-8 bytes of the digit `hexDigit n`: one byte, whose value is `n`. -/
theorem exists_utf8EncodeChar_hexDigit {n : Nat} (hn : n < 16) :
    ∃ d, String.utf8EncodeChar (Bytes.hexDigit n) = [d] ∧
      Hex.digitValue d = some n.toUInt8 := by
  have h := digitValue_hexDigit n hn
  match hc : String.utf8EncodeChar (Bytes.hexDigit n) with
  | [d] => exact ⟨d, rfl, by simpa [hc] using h⟩
  | [] | _ :: _ :: _ => simp [hc] at h

/-- The two digits of a byte are two bytes of text, read back as the byte's high and low
halves. -/
theorem exists_hexPair (b : UInt8) :
    ∃ hi lo, (Bytes.byteHex b).flatMap String.utf8EncodeChar = [hi, lo] ∧
      ∃ h l, Hex.digitValue hi = some h ∧ Hex.digitValue lo = some l ∧ h * 16 + l = b := by
  have hb : b.toNat < 256 := UInt8.toNat_lt_size b
  obtain ⟨hi, hhi, hvhi⟩ := exists_utf8EncodeChar_hexDigit (show b.toNat / 16 < 16 by omega)
  obtain ⟨lo, hlo, hvlo⟩ := exists_utf8EncodeChar_hexDigit (show b.toNat % 16 < 16 by omega)
  refine ⟨hi, lo, by simp [Bytes.byteHex, hhi, hlo], _, _, hvhi, hvlo, ?_⟩
  -- the halves put together, computed on the byte's value
  apply UInt8.toNat_inj.mp
  simp only [UInt8.toNat_add, UInt8.toNat_mul, Nat.toUInt8_eq, UInt8.toNat_ofNat',
    UInt8.toNat_ofNat]
  omega

/-- The reader takes the text bytes of a byte string's hexadecimal back to the bytes. -/
theorem decodePairs_hexBytes (pos : Nat) (bs : Bytes) :
    Hex.decodePairs pos (bs.flatMap fun b => (Bytes.byteHex b).flatMap String.utf8EncodeChar) =
      .ok bs := by
  induction bs generalizing pos with
  | nil => rfl
  | cons b bs ih =>
    obtain ⟨hi, lo, hpair, h, l, hh, hl, hb⟩ := exists_hexPair b
    rw [List.flatMap_cons, hpair]
    simp [Hex.decodePairs, hh, hl, hb, ih, Option.elim, bind, Except.bind, pure, Except.pure]

theorem length_hexBytes (bs : Bytes) :
    (bs.flatMap fun b => (Bytes.byteHex b).flatMap String.utf8EncodeChar).length =
      2 * bs.length := by
  induction bs with
  | nil => rfl
  | cons b bs ih =>
    obtain ⟨hi, lo, hpair, -⟩ := exists_hexPair b
    rw [List.flatMap_cons, List.length_append, hpair, ih]
    simp
    omega

/-- Reading back what `Bytes.toHex` writes gives the bytes. -/
theorem Hex.decode_toHex (bs : Bytes) : Hex.decode (Bytes.toHex bs) = .ok bs := by
  have henc : Bytes.ofString (Bytes.toHex bs) =
      bs.flatMap fun b => (Bytes.byteHex b).flatMap String.utf8EncodeChar := by
    rw [Bytes.ofString_eq_flatMap, Bytes.toHex, String.toList_ofList, List.flatMap_assoc]
  rw [Hex.decode, henc, Hex.decodeBytes, if_neg (by rw [length_hexBytes]; omega)]
  exact decodePairs_hexBytes 0 bs

theorem Bytes.toHex_inj {a b : Bytes} : Bytes.toHex a = Bytes.toHex b ↔ a = b :=
  ⟨fun h => Except.ok.inj ((Hex.decode_toHex a).symm.trans (h ▸ Hex.decode_toHex b)),
    congrArg _⟩

end ShipSlap
