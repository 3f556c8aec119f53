import ShipSlap.Curve.Point
import ShipSlap.Hash.Hmac
/-!
ECDSA signatures over secp256k1 with SHA-256 digests. Signing is deterministic: the nonce comes
from the HMAC-SHA-256 generator of RFC 6979, and of the two valid `s` values the lower half is
kept. Signatures travel in DER: a sequence of two minimal unsigned integers. Verification reads
DER strictly (minimal lengths and integers, nothing after the sequence), requires `r` and `s` in
`[1, n)` and `s` in the lower half, and checks the abscissa of `u₁ G + u₂ Q` against `r`.
-/
namespace ShipSlap.Secp256k1

/-- An ECDSA signature: the pair `(r, s)` of scalars. -/
structure Signature where
  r : Nat
  s : Nat
  deriving DecidableEq, Repr

namespace Der

/-- A DER length octet string, minimal. -/
def encodeLength (len : Nat) : Bytes :=
  if len < 0x80 then [UInt8.ofNat len]
  else
    let body := (Point.bits len).length
    let octets := (body + 7) / 8
    UInt8.ofNat (0x80 + octets) :: Bytes.ofNat octets len

/-- The minimal two's-complement body of a non-negative integer. -/
def integerBody (v : Nat) : Bytes :=
  let raw := (Bytes.ofNat 33 v).dropWhile (· = 0)
  match raw with
  | [] => [0]
  | b :: _ => if b ≥ 0x80 then 0 :: raw else raw

/-- The DER encoding of an INTEGER. -/
def encodeInteger (v : Nat) : Bytes :=
  let body := integerBody v
  0x02 :: encodeLength body.length ++ body

/-- Reads a DER length: short form, or long form with one to four octets and no shorter form
possible. Returns the length and the bytes after it. -/
def decodeLength : Bytes → Option (Nat × Bytes)
  | b :: rest =>
    if b < 0x80 then some (b.toNat, rest)
    else if 0x81 ≤ b ∧ b ≤ 0x84 then
      let n := b.toNat - 0x80
      if n ≤ rest.length then
        let len := Bytes.toNat (rest.take n)
        let minimal := if len < 0x80 then 0 else ((Point.bits len).length + 7) / 8
        if minimal = n then some (len, rest.drop n) else none
      else none
    else none
  | [] => none

/-- Reads an element with the given tag, returning its contents and the bytes after it. -/
def decodeElement (tag : UInt8) : Bytes → Option (Bytes × Bytes)
  | t :: rest =>
    if t = tag then
      match decodeLength rest with
      | some (len, body) => if len ≤ body.length then some (body.take len, body.drop len) else none
      | none => none
    else none
  | [] => none

/-- The value of an unsigned INTEGER's contents: not empty, no redundant leading zero, not
negative. -/
def unsignedValue? : Bytes → Option Bytes
  | [] => none
  | [0] => some [0]
  | 0 :: b :: rest => if b < 0x80 then none else some (b :: rest)
  | b :: rest => if b ≥ 0x80 then none else some (b :: rest)

end Der

namespace Signature

/-- The DER encoding: a SEQUENCE of the INTEGERs `r` and `s`. -/
def toDer (sig : Signature) : Bytes :=
  let body := Der.encodeInteger sig.r ++ Der.encodeInteger sig.s
  0x30 :: Der.encodeLength body.length ++ body

/-- Reads a DER signature strictly; each integer has at most 32 significant bytes. -/
def ofDer? (bs : Bytes) : Option Signature := do
  let (body, after) ← Der.decodeElement 0x30 bs
  guard after.isEmpty
  let (rRaw, rest) ← Der.decodeElement 0x02 body
  let (sRaw, tail) ← Der.decodeElement 0x02 rest
  guard tail.isEmpty
  let r ← Der.unsignedValue? rRaw
  let s ← Der.unsignedValue? sRaw
  guard (r.length ≤ 32 ∧ s.length ≤ 32)
  pure ⟨Bytes.toNat r, Bytes.toNat s⟩

/-- A scalar in the upper half of the group order. -/
def IsHigh (s : Nat) : Prop := groupOrder / 2 < s

instance (s : Nat) : Decidable (IsHigh s) := by unfold IsHigh; infer_instance

/-- Scalars of a signature that are nonzero and below the group order. -/
def InRange (sig : Signature) : Prop :=
  0 < sig.r ∧ sig.r < groupOrder ∧ 0 < sig.s ∧ sig.s < groupOrder

instance (sig : Signature) : Decidable (InRange sig) := by unfold InRange; infer_instance

end Signature

/-- The state of the RFC 6979 generator: the key `k` and value `v` of its HMAC chain. -/
structure NonceState where
  k : Bytes
  v : Bytes

namespace NonceState

/-- The generator seeded with the private scalar's bytes `x` and the reduced digest bytes `h`. -/
def seed (x h : Bytes) : NonceState :=
  let v0 := List.replicate 32 (1 : UInt8)
  let k0 := List.replicate 32 (0 : UInt8)
  let k1 := hmacSha256 k0 (v0 ++ [0] ++ x ++ h)
  let v1 := hmacSha256 k1 v0
  let k2 := hmacSha256 k1 (v1 ++ [1] ++ x ++ h)
  let v2 := hmacSha256 k2 v1
  ⟨k2, v2⟩

/-- One candidate of 32 bytes, and the generator after it. -/
def next (st : NonceState) : Bytes × NonceState :=
  let v := hmacSha256 st.k st.v
  let k := hmacSha256 st.k (v ++ [0])
  (v, ⟨k, hmacSha256 k v⟩)

/-- The first candidate in `[1, n)`, drawing at most `fuel` candidates. -/
def draw (st : NonceState) : Nat → Nat
  | 0 => 1
  | fuel + 1 =>
    let (t, st') := st.next
    let k := Bytes.toNat t
    if 0 < k ∧ k < groupOrder then k else draw st' fuel

end NonceState

/-- The deterministic nonce of RFC 6979 for private scalar `d` and reduced digest `z`. -/
def nonce (d z : Nat) : Nat :=
  (NonceState.seed (Bytes.ofNat 32 d) (Bytes.ofNat 32 z)).draw 64

/-- The signature of digest `digest` by private scalar `d`, with `s` in the lower half. -/
def signDigest (d : Nat) (digest : Bytes) : Signature :=
  let n := groupOrder
  let z := Bytes.toNat digest % n
  let k := nonce d z
  let r := match Point.smul k Point.base with
    | .affine x _ => x % n
    | .infinity => 0
  let s := invMod n k * ((z + r * d) % n) % n
  ⟨r, if Signature.IsHigh s then n - s else s⟩

/-- Whether `sig` is a valid low-`s` signature of digest `digest` under public point `q`. -/
def verifyDigest (q : Point) (digest : Bytes) (sig : Signature) : Bool :=
  let n := groupOrder
  if Signature.InRange sig ∧ ¬ Signature.IsHigh sig.s then
    let z := Bytes.toNat digest % n
    let w := invMod n sig.s
    let u1 := z * w % n
    let u2 := sig.r * w % n
    match Point.add (Point.smul u1 Point.base) (Point.smul u2 q) with
    | .affine x _ => x % n = sig.r
    | .infinity => false
  else false

end ShipSlap.Secp256k1
