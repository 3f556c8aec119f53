import Mathlib
import ShipSlap.Key.Basic
import ShipSlap.Proofs.Curve.BasePoint
/-!
A signature the signer makes verifies under its public key, whenever its two scalars are nonzero
(ECDSA signing fails rather than return `r = 0` or `s = 0`). Main statement:
`PrivateKey.verify_sign`.

1. DER: a signature whose scalars fit 32 bytes reads back from its DER encoding
   (`Signature.ofDer?_toDer`). An integer is written as its significant bytes, with a zero in
   front when the first has its top bit set, and the reader strips that zero again
   (`Der.unsignedValue?_integerBody`).
2. ECDSA: with `w = s⁻¹`, the verifier's `u₁ G + u₂ Q` is `(z + r d) s⁻¹ G`, which is `k G` for
   the signer's `s = k⁻¹ (z + r d)` and `-(k G)` for its low half `n - s` (`verifierPoint_eq`,
   from the group facts `Point.smul_smul_base`, `Point.add_smul_base` and
   `Point.smul_sub_base`); both have the abscissa the signer read `r` from
   (`verifyDigest_signDigest`).
-/
namespace ShipSlap

/-! ## Numbers read from bytes -/

namespace Bytes

theorem foldl_toNat (acc : Nat) (bs : Bytes) :
    bs.foldl (fun acc b => acc * 256 + b.toNat) acc = acc * 256 ^ bs.length + toNat bs := by
  induction bs generalizing acc with
  | nil => simp [toNat_eq]
  | cons b bs ih =>
    -- the number `b :: bs` spells is the fold from `b`, so the hypothesis reads it too
    have hcons : toNat (b :: bs) = (0 * 256 + b.toNat) * 256 ^ bs.length + toNat bs := ih _
    rw [List.foldl_cons, ih, hcons, List.length_cons, Nat.pow_succ]
    ring

/-- The first byte weighs `256` to the power of the bytes after it. -/
theorem toNat_cons (b : UInt8) (bs : Bytes) :
    toNat (b :: bs) = b.toNat * 256 ^ bs.length + toNat bs := by
  rw [toNat_eq, List.foldl_cons, foldl_toNat, Nat.zero_mul, Nat.zero_add]

/-- Leading zero bytes spell nothing. -/
theorem toNat_dropWhile_zero (bs : Bytes) : toNat (bs.dropWhile (· = 0)) = toNat bs := by
  induction bs with
  | nil => rfl
  | cons b bs ih =>
    rw [List.dropWhile_cons]
    by_cases hb : b = 0
    · rw [if_pos (decide_eq_true hb), ih, toNat_cons, hb]
      simp
    · rw [if_neg (by simpa using hb)]

/-- Bytes that start with a nonzero byte spell at least `256` to the power of the rest's
length. -/
theorem pow_length_le_toNat {b : UInt8} (hb : b ≠ 0) (bs : Bytes) :
    256 ^ bs.length ≤ toNat (b :: bs) := by
  have hpos : 0 < b.toNat := by
    rw [Nat.pos_iff_ne_zero, Ne, ← UInt8.toNat_zero, UInt8.toNat_inj]
    exact hb
  calc 256 ^ bs.length ≤ b.toNat * 256 ^ bs.length := Nat.le_mul_of_pos_left _ hpos
    _ ≤ toNat (b :: bs) := by rw [toNat_cons]; exact Nat.le_add_right _ _

end Bytes

/-! ## DER -/

namespace Secp256k1.Der

/-- A short length is one octet. -/
theorem encodeLength_of_lt {len : Nat} (h : len < 0x80) :
    Der.encodeLength len = [UInt8.ofNat len] := by
  rw [Der.encodeLength, if_pos h]

/-- The body of a DER integer takes at most 34 bytes: its 33 low bytes and a sign byte. -/
theorem length_integerBody_le (v : Nat) : (Der.integerBody v).length ≤ 34 := by
  have hraw : ((Bytes.ofNat 33 v).dropWhile (· = 0)).length ≤ 33 :=
    (List.length_dropWhile_le _ _).trans (by simp)
  unfold Der.integerBody
  dsimp only
  split
  · simp
  · split
    · rw [List.length_cons]
      omega
    · omega

theorem length_encodeInteger (v : Nat) :
    (Der.encodeInteger v).length = (Der.integerBody v).length + 2 := by
  have h := Der.length_integerBody_le v
  rw [Der.encodeInteger, List.length_append, List.length_cons, Der.encodeLength_of_lt (by omega)]
  simp only [List.length_singleton]
  omega

/-- A short length is read back from its one octet. -/
theorem decodeLength_short {len : Nat} (h : len < 0x80) (rest : Bytes) :
    decodeLength (UInt8.ofNat len :: rest) = some (len, rest) := by
  have hlen : (UInt8.ofNat len).toNat = len := by
    simp only [UInt8.toNat_ofNat', Nat.reducePow]
    omega
  have hlt : UInt8.ofNat len < 0x80 := by
    rw [UInt8.lt_iff_toNat_lt, hlen]
    exact h
  rw [decodeLength, if_pos hlt, hlen]

/-- An element with a short body is read back as its body and what follows it. -/
theorem decodeElement_short (tag : UInt8) {body : Bytes} (h : body.length < 0x80)
    (rest : Bytes) :
    decodeElement tag (tag :: (encodeLength body.length ++ body ++ rest)) = some (body, rest) := by
  rw [encodeLength_of_lt h, List.singleton_append, List.cons_append, decodeElement, if_pos rfl,
    decodeLength_short h]
  simp

/-- The contents of an integer below `256 ^ 32` read back as at most 32 bytes that spell it: the
leading zeros of its 33-byte form are dropped, and a zero put in front of a first byte with its
top bit set is stripped. -/
theorem unsignedValue?_integerBody {v : Nat} (hv : v < 256 ^ 32) :
    ∃ raw, unsignedValue? (integerBody v) = some raw ∧ raw.length ≤ 32 ∧ Bytes.toNat raw = v := by
  have hval : Bytes.toNat ((Bytes.ofNat 33 v).dropWhile (· = 0)) = v := by
    rw [Bytes.toNat_dropWhile_zero, Bytes.toNat_ofNat, Nat.pow_eq]
    exact Nat.mod_eq_of_lt (hv.trans (by norm_num))
  unfold integerBody
  generalize hraw : (Bytes.ofNat 33 v).dropWhile (· = 0) = raw at hval
  cases raw with
  | nil =>
    -- no significant byte: the integer zero, written as one zero byte
    exact ⟨[0], rfl, by simp, by simpa [Bytes.toNat_eq] using hval⟩
  | cons b rest =>
    have hb : b ≠ 0 := by
      have := List.head_dropWhile_not (fun x : UInt8 => decide (x = 0))
        (l := Bytes.ofNat 33 v) (by rw [hraw]; simp)
      simpa [hraw] using this
    have hlen : (b :: rest).length ≤ 32 := by
      have hle := Bytes.pow_length_le_toNat hb rest
      rw [hval] at hle
      have : rest.length < 32 := (Nat.pow_lt_pow_iff_right (by norm_num)).mp (hle.trans_lt hv)
      simp only [List.length_cons]
      omega
    refine ⟨b :: rest, ?_, hlen, hval⟩
    dsimp only
    split
    · -- a first byte with its top bit set gets a zero in front
      rename_i htop
      rw [unsignedValue?, if_neg (UInt8.not_lt.mpr htop)]
    · -- otherwise the first byte is nonzero and below `0x80`, and is kept
      rename_i htop
      unfold unsignedValue?
      split <;> simp_all

/-- The contents of an integer take fewer than `0x80` bytes, so their length is one octet. -/
theorem length_integerBody_lt (v : Nat) : (integerBody v).length < 0x80 :=
  (length_integerBody_le v).trans_lt (by norm_num)

end Secp256k1.Der

namespace Secp256k1

/-- The two integers of a signature take at most 72 bytes. -/
theorem Signature.length_body_le (sig : Signature) :
    (Der.encodeInteger sig.r ++ Der.encodeInteger sig.s).length ≤ 72 := by
  have hr := Der.length_integerBody_le sig.r
  have hs := Der.length_integerBody_le sig.s
  rw [List.length_append, Der.length_encodeInteger, Der.length_encodeInteger]
  omega

/-- A DER signature takes at most 74 bytes. -/
theorem Signature.length_toDer_le (sig : Signature) : sig.toDer.length ≤ 74 := by
  have hbody := sig.length_body_le
  rw [Signature.toDer, List.length_append, List.length_cons, Der.encodeLength_of_lt (by omega)]
  simp only [List.length_singleton]
  omega

/-- **DER round trip**: a signature whose scalars are below `256 ^ 32` reads back from its DER
encoding. -/
theorem Signature.ofDer?_toDer {sig : Signature} (hr : sig.r < 256 ^ 32) (hs : sig.s < 256 ^ 32) :
    Signature.ofDer? sig.toDer = some sig := by
  obtain ⟨rRaw, hrRaw, hrLen, hrVal⟩ := Der.unsignedValue?_integerBody hr
  obtain ⟨sRaw, hsRaw, hsLen, hsVal⟩ := Der.unsignedValue?_integerBody hs
  have hbody : (Der.encodeInteger sig.r ++ Der.encodeInteger sig.s).length < 0x80 :=
    sig.length_body_le.trans_lt (by norm_num)
  have hseq : Der.decodeElement 0x30 sig.toDer =
      some (Der.encodeInteger sig.r ++ Der.encodeInteger sig.s, []) := by
    rw [Signature.toDer, ← Der.decodeElement_short 0x30 hbody [], List.append_nil]
    rfl
  have hint : ∀ (v : Nat) (rest : Bytes),
      Der.decodeElement 0x02 (Der.encodeInteger v ++ rest) = some (Der.integerBody v, rest) := by
    intro v rest
    rw [Der.encodeInteger, ← Der.decodeElement_short 0x02 (Der.length_integerBody_lt v) rest]
    simp
  have hr' := hint sig.r (Der.encodeInteger sig.s)
  have hs' := hint sig.s []
  rw [List.append_nil] at hs'
  rw [Signature.ofDer?, hseq]
  simp [hr', hs', hrRaw, hsRaw, hrLen, hsLen, hrVal, hsVal]

/-! ## ECDSA -/

instance : Fact groupOrder.Prime := ⟨groupOrder_prime⟩

theorem two_lt_groupOrder : 2 < groupOrder := by
  unfold groupOrder
  decide

theorem groupOrder_mod_two : groupOrder % 2 = 1 := by
  unfold groupOrder
  decide

/-- The verifier's combination of the scalars gives the nonce back: for `s = k⁻¹ (z + r d)`
nonzero, `z s⁻¹ + r s⁻¹ d = k`. -/
theorem ecdsa_combination {F : Type} [Field F] {k z r d : F} (hs : k⁻¹ * (z + r * d) ≠ 0) :
    z * (k⁻¹ * (z + r * d))⁻¹ + r * (k⁻¹ * (z + r * d))⁻¹ * d = k := by
  have hk : k ≠ 0 := by
    rintro rfl
    simp at hs
  have hzr : z + r * d ≠ 0 := by
    intro h
    rw [h, mul_zero] at hs
    exact hs rfl
  field_simp

/-- The low half of a scalar below `n` is not high. -/
theorem not_isHigh_low (s : Nat) :
    ¬ Signature.IsHigh (if Signature.IsHigh s then groupOrder - s else s) := by
  have hn := groupOrder_mod_two
  by_cases h : Signature.IsHigh s
  · rw [if_pos h]
    unfold Signature.IsHigh at h ⊢
    omega
  · rwa [if_neg h]

/-- The signer's `s` before taking the low half, as an element of `ZMod n`: `k⁻¹ (z + r d)`. -/
theorem cast_signScalar (k z r d : Nat) :
    ((invMod groupOrder k * ((z + r * d) % groupOrder) % groupOrder : Nat) : ZMod groupOrder) =
      (k : ZMod groupOrder)⁻¹ * (z + r * d) := by
  push_cast [ZMod.natCast_mod, cast_invMod_of_prime two_lt_groupOrder]
  rfl

/-- The verifier's point `u₁ G + u₂ (d G)` for the signer's `s₀ = k⁻¹ (z + r d)`, taken as is
or as its low half `n - s₀`: `k G`, or its negative. -/
theorem verifierPoint_eq {k z r d s0 : Nat} (hs0 : 0 < s0) (hs0n : s0 < groupOrder)
    (hcast : (s0 : ZMod groupOrder) = (k : ZMod groupOrder)⁻¹ * (z + r * d)) :
    let s := if Signature.IsHigh s0 then groupOrder - s0 else s0
    let w := invMod groupOrder s
    (Point.smul (z * w % groupOrder) Point.base).add
        (Point.smul (r * w % groupOrder) (Point.smul d Point.base)) =
      if Signature.IsHigh s0 then (Point.smul k Point.base).neg else Point.smul k Point.base := by
  intro s w
  have hne : (s0 : ZMod groupOrder) ≠ 0 := by
    rw [Ne, ZMod.natCast_eq_zero_iff]
    exact Nat.not_dvd_of_pos_of_lt hs0 hs0n
  have hk := ecdsa_combination (hcast ▸ hne)
  rw [Point.smul_smul_base, Point.add_smul_base]
  by_cases hhigh : Signature.IsHigh s0
  · -- the low half `n - s₀` is `-s₀`, so the combination is `-k`, which is `n - k mod n`
    rw [if_pos hhigh, ← Point.smul_mod_base k, ← Point.smul_sub_base (Nat.mod_lt _ (by decide)).le]
    apply Point.smul_base_congr
    simp only [s, w, if_pos hhigh]
    push_cast [ZMod.natCast_mod, cast_invMod_of_prime two_lt_groupOrder, Nat.cast_sub hs0n.le,
      Nat.cast_sub (Nat.mod_lt k (by decide : 0 < groupOrder)).le, ZMod.natCast_self]
    rw [hcast, zero_sub, inv_neg]
    linear_combination -hk
  · rw [if_neg hhigh]
    apply Point.smul_base_congr
    simp only [s, w, if_neg hhigh]
    push_cast [ZMod.natCast_mod, cast_invMod_of_prime two_lt_groupOrder]
    rw [hcast]
    exact hk

/-- **Signatures verify**: whenever its scalars are nonzero, the signature of a digest by the
scalar `d` verifies under the public point `d G`. -/
theorem verifyDigest_signDigest (d : Nat) (digest : Bytes) (h : (signDigest d digest).InRange) :
    verifyDigest (Point.smul d Point.base) digest (signDigest d digest) = true := by
  unfold signDigest at h ⊢
  dsimp only at h ⊢
  generalize hz : Bytes.toNat digest % groupOrder = z at h ⊢
  generalize nonce d z = k at h ⊢
  cases hR : Point.smul k Point.base with
  | infinity =>
    -- `r` would be zero
    simp only [hR] at h
    exact absurd h.1 (lt_irrefl 0)
  | affine x y =>
    simp only [hR] at h ⊢
    generalize hs0 : invMod groupOrder k * ((z + x % groupOrder * d) % groupOrder) % groupOrder
      = s0 at h ⊢
    have hcast := cast_signScalar k z (x % groupOrder) d
    rw [hs0] at hcast
    have hs0n : s0 < groupOrder := hs0 ▸ Nat.mod_lt _ (by decide)
    -- `s₀` is not zero: its low half is not
    have hs0pos : 0 < s0 := by
      rcases Nat.eq_zero_or_pos s0 with rfl | hpos
      · exact absurd h.2.2.1 (by simp [Signature.IsHigh])
      · exact hpos
    have hpt := verifierPoint_eq hs0pos hs0n hcast
    unfold verifyDigest
    rw [if_pos ⟨h, not_isHigh_low s0⟩]
    dsimp only at hpt ⊢
    rw [hz, hpt, hR]
    split_ifs <;> simp [Point.neg]

end Secp256k1

open Secp256k1 in
/-- **A key's signatures verify under its public key**, whenever their scalars are nonzero. -/
theorem PrivateKey.verify_sign (c : PrivateKey) (data : Bytes)
    (h : (signDigest c.scalar (sha256 data)).InRange) :
    c.publicKey.verify data (c.sign data) = true := by
  have hn : groupOrder < 256 ^ 32 := by
    unfold groupOrder
    norm_num
  rw [PublicKey.verify, PrivateKey.sign, Signature.ofDer?_toDer (h.2.1.trans hn) (h.2.2.2.trans hn)]
  exact verifyDigest_signDigest c.scalar (sha256 data) h

end ShipSlap
