import ShipSlap.Bytes.Basic
/-!
UTF-8 decoding of byte strings. A well-formed sequence is one of the forms of the Unicode
standard's table of well-formed byte sequences (no overlong forms, no surrogates, nothing above
U+10FFFF). The strict reader refuses any other input; the lossy reader puts one U+FFFD for each
maximal prefix of a well-formed sequence that breaks off, and for each byte that starts none.
-/
namespace ShipSlap.Text

/-- A continuation byte within `[lo, hi]`. -/
def inRange (lo hi : UInt8) (b : UInt8) : Bool :=
  lo ≤ b && b ≤ hi

/-- The byte ranges of a well-formed sequence after the lead byte `b`, or `none` if `b` leads
none. -/
def tailRanges (b : UInt8) : Option (List (UInt8 × UInt8)) :=
  if b < 0x80 then some []
  else if 0xC2 ≤ b ∧ b ≤ 0xDF then some [(0x80, 0xBF)]
  else if b = 0xE0 then some [(0xA0, 0xBF), (0x80, 0xBF)]
  else if b = 0xED then some [(0x80, 0x9F), (0x80, 0xBF)]
  else if 0xE1 ≤ b ∧ b ≤ 0xEF then some [(0x80, 0xBF), (0x80, 0xBF)]
  else if b = 0xF0 then some [(0x90, 0xBF), (0x80, 0xBF), (0x80, 0xBF)]
  else if 0xF1 ≤ b ∧ b ≤ 0xF3 then some [(0x80, 0xBF), (0x80, 0xBF), (0x80, 0xBF)]
  else if b = 0xF4 then some [(0x80, 0x8F), (0x80, 0xBF), (0x80, 0xBF)]
  else none

/-- How many bytes after the lead match the expected ranges, in order. -/
def matchedTail : List (UInt8 × UInt8) → Bytes → Nat
  | (lo, hi) :: rs, b :: bs => if inRange lo hi b then matchedTail rs bs + 1 else 0
  | _, _ => 0

/-- The code point of a well-formed sequence. -/
def codePoint (lead : UInt8) (tail : Bytes) : Nat :=
  let first :=
    if lead < 0x80 then lead.toNat
    else if lead < 0xE0 then lead.toNat % 0x20
    else if lead < 0xF0 then lead.toNat % 0x10
    else lead.toNat % 0x08
  tail.foldl (fun acc b => acc * 64 + b.toNat % 64) first

/-- One step of decoding: the character read (or `none` for a broken sequence) and how many
bytes it took, at least one. -/
def step (b : UInt8) (rest : Bytes) : Option Char × Nat :=
  match tailRanges b with
  | some rs =>
    let k := matchedTail rs rest
    if k = rs.length then (some (Char.ofNat (codePoint b (rest.take k))), k + 1) else (none, k + 1)
  | none => (none, 1)

/-- Decodes, with U+FFFD for each broken sequence. -/
def decodeLossyChars : Bytes → List Char
  | [] => []
  | b :: rest =>
    let (c, n) := step b rest
    c.getD '�' :: decodeLossyChars (rest.drop (n - 1))
termination_by bs => bs.length
decreasing_by simp only [List.length_drop, List.length_cons]; omega

/-- Decodes strictly: every sequence must be well formed. -/
def decodeChars? : Bytes → Option (List Char)
  | [] => some []
  | b :: rest =>
    match step b rest with
    | (some c, n) => (decodeChars? (rest.drop (n - 1))).map (c :: ·)
    | (none, _) => none
termination_by bs => bs.length
decreasing_by simp only [List.length_drop, List.length_cons]; omega

/-- The text of a byte string in UTF-8, if it is well formed. -/
def decodeUtf8? (bs : Bytes) : Option String :=
  (decodeChars? bs).map String.ofList

/-- The text of a byte string in UTF-8, broken sequences replaced by U+FFFD. -/
def decodeUtf8Lossy (bs : Bytes) : String :=
  String.ofList (decodeLossyChars bs)

end ShipSlap.Text
