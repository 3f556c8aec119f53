import Mathlib
import ShipSlap.Text.Utf8
/-!
The strict UTF-8 reader against the encoder of `String`. Main statement: `decodeUtf8?_ofString`,
reading the UTF-8 bytes of any text gives the text back.

The encoder writes a character of `n` bytes as a lead byte in the range the reader's table gives
for that length and `n - 1` continuation bytes, each inside the table's range for its place; the
places where the table narrows a range (after `E0`, `ED`, `F0` and `F4`) exclude exactly the
overlong forms, the surrogates and the code points above U+10FFFF, none of which a character
has. The payload bits then add up to the code point (`step_one` to `step_four`).
-/
namespace ShipSlap

/-- Walking a byte array from index `i` with the bytes `r` already collected, in reverse. -/
theorem toList_loop_eq (data : Array UInt8) (i : Nat) (r : List UInt8) :
    ByteArray.toList.loop ⟨data⟩ i r = r.reverse ++ data.toList.drop i := by
  fun_induction ByteArray.toList.loop ⟨data⟩ i r with
  | case1 i r hi ih =>
    have hi' : i < data.toList.length := by simpa [ByteArray.size] using hi
    have hd : i < data.size := by simpa using hi'
    rw [ih, List.reverse_cons, List.append_assoc, List.drop_eq_getElem_cons hi']
    simp [ByteArray.get!, getElem!_pos data i hd]
  | case2 i r hi =>
    have hi' : data.toList.length ≤ i := by simpa [ByteArray.size] using hi
    rw [List.drop_eq_nil_of_le hi', List.append_nil]

/-- The UTF-8 bytes of a text are its characters' encodings, one after another. -/
theorem Bytes.ofString_eq_flatMap (s : String) :
    Bytes.ofString s = s.toList.flatMap String.utf8EncodeChar := by
  rw [Bytes.ofString, String.toUTF8_eq_toByteArray, ← String.utf8Encode_toList, List.utf8Encode,
    ByteArray.toList, toList_loop_eq, List.toList_data_toByteArray]
  rfl

/-- A text takes as many UTF-8 bytes as its byte size says. -/
theorem Bytes.length_ofString (s : String) : (Bytes.ofString s).length = s.utf8ByteSize := by
  rw [Bytes.ofString, String.toUTF8_eq_toByteArray, ByteArray.toList, toList_loop_eq,
    List.reverse_nil, List.nil_append, List.drop_zero, Array.length_toList]
  exact String.size_toByteArray

namespace Text

/-- The table of lead bytes, read on the byte's value. -/
theorem tailRanges_eq (b : UInt8) : tailRanges b =
    if b.toNat < 0x80 then some []
    else if 0xC2 ≤ b.toNat ∧ b.toNat ≤ 0xDF then some [(0x80, 0xBF)]
    else if b.toNat = 0xE0 then some [(0xA0, 0xBF), (0x80, 0xBF)]
    else if b.toNat = 0xED then some [(0x80, 0x9F), (0x80, 0xBF)]
    else if 0xE1 ≤ b.toNat ∧ b.toNat ≤ 0xEF then some [(0x80, 0xBF), (0x80, 0xBF)]
    else if b.toNat = 0xF0 then some [(0x90, 0xBF), (0x80, 0xBF), (0x80, 0xBF)]
    else if 0xF1 ≤ b.toNat ∧ b.toNat ≤ 0xF3 then some [(0x80, 0xBF), (0x80, 0xBF), (0x80, 0xBF)]
    else if b.toNat = 0xF4 then some [(0x80, 0x8F), (0x80, 0xBF), (0x80, 0xBF)]
    else none := by
  simp only [tailRanges, UInt8.lt_iff_toNat_lt, UInt8.le_iff_toNat_le, ← UInt8.toNat_inj,
    UInt8.reduceToNat]

theorem step_eq (b : UInt8) (rest : Bytes) : step b rest =
    match tailRanges b with
    | some rs =>
      if matchedTail rs rest = rs.length then
        (some (Char.ofNat (codePoint b (rest.take (matchedTail rs rest)))),
          matchedTail rs rest + 1)
      else (none, matchedTail rs rest + 1)
    | none => (none, 1) := rfl

theorem matchedTail_nil (bs : Bytes) : matchedTail [] bs = 0 := rfl

theorem matchedTail_cons (lo hi : UInt8) (rs : List (UInt8 × UInt8)) (b : UInt8) (bs : Bytes) :
    matchedTail ((lo, hi) :: rs) (b :: bs) =
      if inRange lo hi b then matchedTail rs bs + 1 else 0 := rfl

theorem inRange_eq (lo hi b : UInt8) : inRange lo hi b = (lo ≤ b && b ≤ hi) := rfl

theorem codePoint_eq (lead : UInt8) (tail : Bytes) : codePoint lead tail =
    tail.foldl (fun acc b => acc * 64 + b.toNat % 64)
      (if lead < 0x80 then lead.toNat else if lead < 0xE0 then lead.toNat % 0x20
        else if lead < 0xF0 then lead.toNat % 0x10 else lead.toNat % 0x08) := rfl

theorem step_one {v : Nat} (h : v ≤ 0x7f) (rest : Bytes) :
    step (UInt8.ofNat v) rest = (some (Char.ofNat v), 1) := by
  have hb : (UInt8.ofNat v).toNat = v := UInt8.toNat_ofNat_of_lt' (show v < 256 by omega)
  rw [step_eq, tailRanges_eq, hb, if_pos (by omega)]
  simp only [matchedTail_nil, codePoint_eq, UInt8.lt_iff_toNat_lt, UInt8.reduceToNat, hb,
    List.length_nil, List.take_zero, List.foldl_nil, if_true, Nat.lt_succ_of_le h]

theorem step_two {v : Nat} (h1 : 0x7f < v) (h2 : v ≤ 0x7ff) (rest : Bytes) :
    step (UInt8.ofNat (v / 64 % 32 + 192)) (UInt8.ofNat (v % 64 + 128) :: rest) =
      (some (Char.ofNat v), 2) := by
  have hb0 : (UInt8.ofNat (v / 64 % 32 + 192)).toNat = v / 64 + 192 := by
    rw [UInt8.toNat_ofNat_of_lt' (show _ < 256 by omega)]; omega
  have hb1 : (UInt8.ofNat (v % 64 + 128)).toNat = v % 64 + 128 :=
    UInt8.toNat_ofNat_of_lt' (show _ < 256 by omega)
  have hcode : (v / 64 + 192) % 32 * 64 + (v % 64 + 128) % 64 = v := by omega
  -- a lead byte in `C2`..`DF`, since the code point is not overlong
  rw [step_eq, tailRanges_eq, hb0, if_neg (by omega), if_pos (by omega)]
  simp (disch := omega) only [matchedTail_cons, matchedTail_nil, inRange_eq, codePoint_eq,
    UInt8.le_iff_toNat_le, UInt8.lt_iff_toNat_lt, UInt8.reduceToNat, hb0, hb1, Bool.and_eq_true, decide_eq_true_eq,
    if_pos, if_neg, List.length_cons, List.length_nil, List.take_succ_cons, List.take_zero,
    List.foldl_cons, List.foldl_nil, if_true, hcode]

/-- The three-byte case: the lead byte `E0` narrows the next byte to exclude overlong forms,
and `ED` to exclude the surrogates. -/
theorem step_three {v : Nat} (h1 : 0x7ff < v) (h2 : v ≤ 0xffff) (hs : v < 0xd800 ∨ 0xdfff < v)
    (rest : Bytes) :
    step (UInt8.ofNat (v / 4096 % 16 + 224))
        (UInt8.ofNat (v / 64 % 64 + 128) :: UInt8.ofNat (v % 64 + 128) :: rest) =
      (some (Char.ofNat v), 3) := by
  have hb0 : (UInt8.ofNat (v / 4096 % 16 + 224)).toNat = v / 4096 + 224 := by
    rw [UInt8.toNat_ofNat_of_lt' (show _ < 256 by omega)]; omega
  have hb1 : (UInt8.ofNat (v / 64 % 64 + 128)).toNat = v / 64 % 64 + 128 :=
    UInt8.toNat_ofNat_of_lt' (show _ < 256 by omega)
  have hb2 : (UInt8.ofNat (v % 64 + 128)).toNat = v % 64 + 128 :=
    UInt8.toNat_ofNat_of_lt' (show _ < 256 by omega)
  have hcode : ((v / 4096 + 224) % 16 * 64 + (v / 64 % 64 + 128) % 64) * 64 +
      (v % 64 + 128) % 64 = v := by
    omega
  rw [step_eq, tailRanges_eq, hb0]
  -- one goal for each row of the table; the rows that do not match the lead byte are refuted
  split_ifs <;> simp (disch := omega) only [matchedTail_cons, matchedTail_nil, inRange_eq,
    codePoint_eq, UInt8.le_iff_toNat_le, UInt8.lt_iff_toNat_lt, UInt8.reduceToNat, hb0, hb1, hb2,
    Bool.and_eq_true, decide_eq_true_eq, if_pos, if_neg, List.length_cons, List.length_nil,
    List.take_succ_cons, List.take_zero, List.foldl_cons, List.foldl_nil, if_true, hcode] <;> omega

/-- The four-byte case: the lead byte `F0` narrows the next byte to exclude overlong forms, and
`F4` to stay at or below U+10FFFF. -/
theorem step_four {v : Nat} (h1 : 0xffff < v) (h2 : v < 0x110000) (rest : Bytes) :
    step (UInt8.ofNat (v / 262144 % 8 + 240))
        (UInt8.ofNat (v / 4096 % 64 + 128) :: UInt8.ofNat (v / 64 % 64 + 128) ::
          UInt8.ofNat (v % 64 + 128) :: rest) =
      (some (Char.ofNat v), 4) := by
  have hb0 : (UInt8.ofNat (v / 262144 % 8 + 240)).toNat = v / 262144 + 240 := by
    rw [UInt8.toNat_ofNat_of_lt' (show _ < 256 by omega)]; omega
  have hb1 : (UInt8.ofNat (v / 4096 % 64 + 128)).toNat = v / 4096 % 64 + 128 :=
    UInt8.toNat_ofNat_of_lt' (show _ < 256 by omega)
  have hb2 : (UInt8.ofNat (v / 64 % 64 + 128)).toNat = v / 64 % 64 + 128 :=
    UInt8.toNat_ofNat_of_lt' (show _ < 256 by omega)
  have hb3 : (UInt8.ofNat (v % 64 + 128)).toNat = v % 64 + 128 :=
    UInt8.toNat_ofNat_of_lt' (show _ < 256 by omega)
  have hcode : (((v / 262144 + 240) % 8 * 64 + (v / 4096 % 64 + 128) % 64) * 64 +
      (v / 64 % 64 + 128) % 64) * 64 + (v % 64 + 128) % 64 = v := by
    omega
  rw [step_eq, tailRanges_eq, hb0]
  split_ifs <;> simp (disch := omega) only [matchedTail_cons, matchedTail_nil, inRange_eq,
    codePoint_eq, UInt8.le_iff_toNat_le, UInt8.lt_iff_toNat_lt, UInt8.reduceToNat, hb0, hb1, hb2, hb3,
    Bool.and_eq_true, decide_eq_true_eq, if_pos, if_neg, List.length_cons, List.length_nil,
    List.take_succ_cons, List.take_zero, List.foldl_cons, List.foldl_nil, if_true, hcode] <;> omega

/-- The strict reader takes one encoded character off the front. -/
theorem decodeChars?_utf8EncodeChar_append (c : Char) (rest : Bytes) :
    decodeChars? (String.utf8EncodeChar c ++ rest) = (decodeChars? rest).map (c :: ·) := by
  have hv : c.val.toNat < 0xd800 ∨ 0xdfff < c.val.toNat ∧ c.val.toNat < 0x110000 := c.valid
  have hc : Char.ofNat c.val.toNat = c := Char.ofNat_toNat c
  simp only [String.utf8EncodeChar]
  split_ifs with h1 h2 h3
  · rw [List.cons_append, List.nil_append, decodeChars?, step_one h1, hc]
    rfl
  · rw [List.cons_append, List.cons_append, List.nil_append, decodeChars?,
      step_two (by omega) h2, hc]
    rfl
  · rw [List.cons_append, List.cons_append, List.cons_append, List.nil_append, decodeChars?,
      step_three (by omega) h3 (by omega), hc]
    rfl
  · rw [List.cons_append, List.cons_append, List.cons_append, List.cons_append, List.nil_append,
      decodeChars?, step_four (by omega) (by omega), hc]
    rfl

theorem decodeChars?_flatMap (cs : List Char) :
    decodeChars? (cs.flatMap String.utf8EncodeChar) = some cs := by
  induction cs with
  | nil => simp [decodeChars?]
  | cons c cs ih =>
    rw [List.flatMap_cons, decodeChars?_utf8EncodeChar_append, ih]
    rfl

/-- **Reading the UTF-8 bytes of a text gives the text back.** -/
theorem decodeUtf8?_ofString (s : String) : decodeUtf8? (Bytes.ofString s) = some s := by
  rw [decodeUtf8?, Bytes.ofString_eq_flatMap, decodeChars?_flatMap]
  simp

end Text

/-- Different texts have different UTF-8 bytes. -/
theorem Bytes.ofString_injective : Function.Injective Bytes.ofString := by
  intro s t h
  have hs := Text.decodeUtf8?_ofString s
  rw [h, Text.decodeUtf8?_ofString] at hs
  exact (Option.some.inj hs).symm

/-- The UTF-8 bytes of two texts one after the other. -/
theorem Bytes.ofString_append (s t : String) :
    Bytes.ofString (s ++ t) = Bytes.ofString s ++ Bytes.ofString t := by
  rw [Bytes.ofString_eq_flatMap, Bytes.ofString_eq_flatMap, Bytes.ofString_eq_flatMap,
    String.toList_append, List.flatMap_append]

end ShipSlap
