import Mathlib
import ShipSlap.Token.Fields
import ShipSlap.Proofs.Bytes.Hex
import ShipSlap.Proofs.Curve.BasePoint
/-!
Which bytes a public key is read from and written as. A key is written in the 33-byte compressed
form: `02` or `03` for the parity of `y`, then `x` (`PublicKey.toBytes`). It is read from that
form, from the 65-byte uncompressed form `04 x y`, and from `05 x` (`PublicKey.ofBytes`). Main
statement: bytes that read as a key are written back the same exactly when they start with `02`
or `03` (`PublicKey.toBytes_eq_iff`).

The step that needs the curve: no point has `y = 0`, since `-7` is not a cube modulo `p`
(`cube_add_seven_ne_zero`), so the root the reader picks always has the parity the tag asks
for.

The other way round, every key a private key gives reads back from its compressed form
(`PrivateKey.ofBytes_publicKey_toBytes`). Its point lies on the curve, and the reader finds its
ordinate: `c ^ ((p + 1) / 4)` is a square root of every nonzero square `c` as `p` is `3` modulo
`4` (`pow_sqrt_exponent`), and of the two roots `y` and `p - y` the tag's parity picks `y`
(`eq_of_mul_self_of_parity`).

An advertisement keeps its identity field as the hexadecimal of its bytes, as written
(`AdvertisementFields.identityKey_ofFields`), so the identity text of a token is its key's `toHex`
exactly when the field is written compressed (`identityKey_eq_toHex_iff`).
-/
namespace ShipSlap

namespace Secp256k1

theorem fieldPrime_mod_two : fieldPrime % 2 = 1 := by
  unfold fieldPrime
  decide

/-- `-7` is no cube modulo `p`: its power `(p - 1) / 3`, computed once, is not one. -/
theorem neg_seven_pow_ne_one : (-7 : Fp) ^ ((fieldPrime - 1) / 3) ≠ 1 := by
  have hval : powMod fieldPrime (fieldPrime - 7) ((fieldPrime - 1) / 3) ≠ 1 := by
    decide +kernel
  have hp := two_lt_fieldPrime
  have h7 : 7 ≤ fieldPrime := by unfold fieldPrime; decide
  have hcast : ((powMod fieldPrime (fieldPrime - 7) ((fieldPrime - 1) / 3) : Nat) : Fp) =
      (-7 : Fp) ^ ((fieldPrime - 1) / 3) := by
    rw [powMod_eq, cast_mod, Nat.cast_pow, Nat.cast_sub h7, ZMod.natCast_self, zero_sub]
    norm_num
  intro h
  apply hval
  rw [← cast_inj (powMod_lt _ _ _ fieldPrime_pos) (by omega), hcast, h, Nat.cast_one]

/-- No point of the curve has `y = 0`: `x ^ 3 + 7` never vanishes modulo `p`. -/
theorem cube_add_seven_ne_zero (x : Nat) : (x * x % fieldPrime * x + 7) % fieldPrime ≠ 0 := by
  intro h
  have hF : (x : Fp) ^ 3 = -7 := by
    have := congrArg (Nat.cast : Nat → Fp) h
    rw [cast_mod, Nat.cast_add, Nat.cast_mul, cast_mod, Nat.cast_mul, Nat.cast_zero] at this
    linear_combination this
  have h7 : (7 : Fp) ≠ 0 := by
    rw [show (7 : Fp) = ((7 : Nat) : Fp) by norm_num, Ne, ZMod.natCast_eq_zero_iff]
    unfold fieldPrime
    decide
  have hx : (x : Fp) ≠ 0 := by
    intro hx
    rw [hx, zero_pow (by norm_num)] at hF
    exact h7 (neg_eq_zero.mp hF.symm)
  -- then `(-7) ^ ((p - 1) / 3) = x ^ (p - 1) = 1`, which the computation refutes
  have hdvd : 3 * ((fieldPrime - 1) / 3) = fieldPrime - 1 := by
    unfold fieldPrime
    decide
  apply neg_seven_pow_ne_one
  rw [← hF, ← pow_mul, hdvd]
  exact ZMod.pow_card_sub_one_eq_one hx

theorem fieldPrime_mod_four : fieldPrime % 4 = 3 := by
  unfold fieldPrime
  decide

/-- Euler's criterion at `p ≡ 3 (mod 4)`: a nonzero square `x = y ^ 2` has `x ^ ((p + 1) / 4)`
as a square root. -/
theorem pow_sqrt_exponent {x y : Fp} (hy : y ≠ 0) (h : y * y = x) :
    x ^ ((fieldPrime + 1) / 4) * x ^ ((fieldPrime + 1) / 4) = x := by
  have hexp : 2 * ((fieldPrime + 1) / 4 + (fieldPrime + 1) / 4) = (fieldPrime - 1) + 2 := by
    have := fieldPrime_mod_four
    omega
  subst h
  rw [← pow_add, ← pow_two, ← pow_mul, hexp, pow_add, ZMod.pow_card_sub_one_eq_one hy,
    one_mul, pow_two]

/-- Two field elements with one square are equal or opposite. -/
theorem eq_or_eq_neg_of_mul_self_eq {a b : Fp} (h : a * a = b * b) : a = b ∨ a = -b := by
  have hfac : (a - b) * (a + b) = 0 := by linear_combination h
  rcases mul_eq_zero.mp hfac with h1 | h2
  · exact Or.inl (sub_eq_zero.mp h1)
  · exact Or.inr (eq_neg_of_add_eq_zero_left h2)

theorem cast_ne_zero {y : Nat} (hy : y < fieldPrime) (hy0 : y ≠ 0) : (y : Fp) ≠ 0 := by
  rw [Ne, ← Nat.cast_zero, cast_inj hy fieldPrime_pos]
  exact hy0

/-- Two roots below the prime of one square and of one parity are equal: the other root of
`y ^ 2` is `p - y`, of the other parity since `p` is odd. -/
theorem eq_of_mul_self_of_parity {y y' : Nat} (hy : y < fieldPrime) (hy' : y' < fieldPrime)
    (hsq : (y' : Fp) * y' = (y : Fp) * y) (hpar : y' % 2 = y % 2) : y' = y := by
  rcases eq_or_eq_neg_of_mul_self_eq hsq with h | h
  · exact (cast_inj hy' hy).mp h
  · -- `y' + y` is a multiple of `p` below `2 p`, so it is `0` or `p`, and `p` is odd
    have hdvd : fieldPrime ∣ y' + y := by
      rw [← ZMod.natCast_eq_zero_iff, Nat.cast_add, h, neg_add_cancel]
    obtain ⟨k, hk⟩ := hdvd
    have hp := fieldPrime_mod_two
    rcases k with _ | _ | k
    · omega
    · omega
    · rw [Nat.mul_succ, Nat.mul_succ] at hk
      omega

namespace Point

theorem sqrt?_eq_some {c y : Nat} (h : sqrt? c = some y) :
    y < fieldPrime ∧ y * y % fieldPrime = c % fieldPrime := by
  unfold sqrt? at h
  dsimp only at h
  split at h
  · cases h
    exact ⟨powMod_lt _ _ _ fieldPrime_pos, ‹_›⟩
  · cases h

/-- The point lifted from `x` has the parity asked for: the root found is not zero, so it and
its negation `p - y` have both parities between them. -/
theorem lift?_eq_some {x : Nat} {odd : Bool} {P : Point} (h : lift? x odd = some P) :
    ∃ y, P = .affine x y ∧ (y % 2 = 1 ↔ odd = true) := by
  unfold lift? at h
  split at h
  · split at h
    · rename_i y hy
      obtain ⟨hlt, hsq⟩ := sqrt?_eq_some hy
      have hy0 : y ≠ 0 := by
        rintro rfl
        exact cube_add_seven_ne_zero x (by simpa [Nat.mod_mod] using hsq.symm)
      have hp := fieldPrime_mod_two
      cases h
      refine ⟨_, rfl, ?_⟩
      split
      · simp_all
      · rw [Nat.mod_eq_of_lt (by omega : fieldPrime - y < fieldPrime)]
        cases odd <;> simp_all <;> omega
    · cases h
  · cases h

/-- Bytes starting with `02` or `03` are read as the lift of the 32 bytes after the tag. -/
theorem ofBytes?_compressed {tag : UInt8} {rest : Bytes} (ht : tag = 2 ∨ tag = 3) :
    ofBytes? (tag :: rest) =
      if rest.length = 32 then lift? (Bytes.toNat rest) (tag = 3) else none := by
  unfold ofBytes?
  split
  · rename_i h
    simp at h
    rcases ht with rfl | rfl <;> simp_all
  · rename_i h
    simp only [List.cons.injEq] at h
    obtain ⟨rfl, rfl⟩ := h
    rcases ht with rfl | rfl <;> simp
  · simp_all

/-- The reader's square root exists for every nonzero square. -/
theorem sqrt?_eq_some_of_square {c y : Nat} (hy : y < fieldPrime) (hy0 : y ≠ 0)
    (hc : y * y % fieldPrime = c % fieldPrime) :
    sqrt? c = some (powMod fieldPrime c ((fieldPrime + 1) / 4)) := by
  have hcy : (y : Fp) * y = c := by
    rw [← Nat.cast_mul, ← cast_mod, hc, cast_mod]
  have hroot : ((powMod fieldPrime c ((fieldPrime + 1) / 4) : Nat) : Fp) *
      (powMod fieldPrime c ((fieldPrime + 1) / 4) : Nat) = c := by
    rw [powMod_eq, cast_mod, Nat.cast_pow]
    exact pow_sqrt_exponent (cast_ne_zero hy hy0) hcy
  unfold sqrt?
  rw [if_pos]
  rw [← ZMod.natCast_eq_natCast_iff', Nat.cast_mul, hroot]

/-- The ordinate the reader lifts squares to `x ^ 3 + 7` and lies below the prime. -/
theorem lift?_mul_self {x y : Nat} {odd : Bool} (h : lift? x odd = some (.affine x y)) :
    y < fieldPrime ∧ (y : Fp) * y = ((x * x % fieldPrime * x + 7) % fieldPrime : Nat) := by
  unfold lift? at h
  split at h
  · split at h
    · rename_i r hr
      obtain ⟨hlt, hsq⟩ := sqrt?_eq_some hr
      have hrr : (r : Fp) * r = ((x * x % fieldPrime * x + 7) % fieldPrime : Nat) := by
        rw [← Nat.cast_mul, ZMod.natCast_eq_natCast_iff', hsq]
      cases h
      split
      · exact ⟨hlt, hrr⟩
      · refine ⟨Nat.mod_lt _ fieldPrime_pos, ?_⟩
        rw [cast_mod, Nat.cast_sub hlt.le, ZMod.natCast_self, zero_sub, neg_mul_neg]
        exact hrr
    · cases h
  · cases h

/-- Lifting the abscissa of a point of the curve, with the parity of its ordinate, gives the
point back. -/
theorem lift?_of_onCurve {x y : Nat} (h : OnCurve x y) :
    lift? x (decide (y % 2 = 1)) = some (.affine x y) := by
  obtain ⟨hx, hy, heq⟩ := h
  have hy0 : y ≠ 0 := by
    rintro rfl
    exact cube_add_seven_ne_zero x (by simpa using heq.symm)
  have hsome : (lift? x (decide (y % 2 = 1))).isSome := by
    unfold lift?
    rw [if_pos hx, sqrt?_eq_some_of_square hy hy0 (heq.trans (Nat.mod_mod _ _).symm)]
    rfl
  obtain ⟨P, hP⟩ := Option.isSome_iff_exists.mp hsome
  obtain ⟨y', rfl, hpar⟩ := lift?_eq_some hP
  obtain ⟨hy', hsq⟩ := lift?_mul_self hP
  have hyy : (y : Fp) * y = ((x * x % fieldPrime * x + 7) % fieldPrime : Nat) := by
    rw [← Nat.cast_mul, ZMod.natCast_eq_natCast_iff', heq, Nat.mod_mod]
  rw [hP, eq_of_mul_self_of_parity hy hy' (hsq.trans hyy.symm) (by simp at hpar; omega)]

/-- A multiple of the base point other than infinity lies on the curve. -/
theorem onCurve_of_smul_base {k x y : Nat} (h : smul k base = .affine x y) : OnCurve x y := by
  obtain ⟨G, hG⟩ := exists_represents_base
  have hk := represents_smul hG k
  rw [h] at hk
  cases hkG : k • G with
  | zero => rw [hkG] at hk; exact hk.elim
  | some X Y hns =>
    rw [hkG] at hk
    obtain ⟨hx, hy, rfl, rfl⟩ := hk
    exact Iff.mpr onCurve_iff ⟨hx, hy, hns.1⟩

end Point

end Secp256k1

/-- A byte string is written back as itself from the number it spells. -/
theorem Bytes.ofNat_toNat (bs : Bytes) : Bytes.ofNat bs.length (Bytes.toNat bs) = bs := by
  induction bs using List.reverseRecOn with
  | nil => rfl
  | append_singleton bs b ih =>
    have hb : b.toNat < 256 := UInt8.toNat_lt_size b
    rw [List.length_append, List.length_singleton, Bytes.ofNat, Bytes.toNat_append_byte,
      show (Bytes.toNat bs * 256 + b.toNat) / 256 = Bytes.toNat bs by omega,
      show (Bytes.toNat bs * 256 + b.toNat) % 256 = b.toNat by omega, ih]
    simp

open Secp256k1 in
/-- Bytes that read as a key are the key's compressed form exactly when they start with `02` or
`03`: the uncompressed form and the form tagged `05` read as keys too, but are written
otherwise. -/
theorem PublicKey.toBytes_eq_iff {bs : Bytes} {K : PublicKey}
    (h : PublicKey.ofBytes bs = .ok K) :
    bs = K.toBytes ↔ bs.head? = some 2 ∨ bs.head? = some 3 := by
  unfold PublicKey.ofBytes at h
  split at h
  · rename_i x y hbs
    cases h
    constructor
    · -- the compressed form starts with the parity tag
      rintro rfl
      simp only [PublicKey.toBytes, Point.toCompressed, List.head?_cons, Option.some.injEq]
      split <;> simp
    · intro htag
      obtain ⟨tag, rest, rfl⟩ : ∃ tag rest, bs = tag :: rest := by
        cases bs with
        | nil => simp at htag
        | cons tag rest => exact ⟨tag, rest, rfl⟩
      have ht : tag = 2 ∨ tag = 3 := by simpa using htag
      rw [Point.ofBytes?_compressed ht] at hbs
      split at hbs
      · rename_i hlen
        obtain ⟨y', hP, hpar⟩ := Point.lift?_eq_some hbs
        obtain ⟨rfl, rfl⟩ := Point.affine.inj hP
        -- the tag is the parity the lift kept, and `x` is written back as the 32 bytes
        have htag' : (if y % 2 = 1 then (3 : UInt8) else 2) = tag := by
          rcases ht with rfl | rfl <;> simp_all
        simp only [PublicKey.toBytes, Point.toCompressed, htag', ← hlen, Bytes.ofNat_toNat]
      · cases hbs
  · cases h

open Secp256k1 in
/-- A key at a point of the curve reads back from its compressed encoding. -/
theorem PublicKey.ofBytes_toBytes_of_onCurve {x y : Nat} (h : Point.OnCurve x y) :
    PublicKey.ofBytes (⟨.affine x y⟩ : PublicKey).toBytes = .ok ⟨.affine x y⟩ := by
  have hx : x < Nat.pow 256 32 := lt_of_lt_of_le h.1 (by unfold fieldPrime; decide)
  have htag : (if y % 2 = 1 then 3 else 2 : UInt8) = 2 ∨
      (if y % 2 = 1 then 3 else 2 : UInt8) = 3 := by
    split <;> simp
  have hodd : decide ((if y % 2 = 1 then 3 else 2 : UInt8) = 3) = decide (y % 2 = 1) := by
    split <;> simp_all
  simp only [PublicKey.ofBytes, PublicKey.toBytes, Point.toCompressed]
  rw [Point.ofBytes?_compressed htag, if_pos (Bytes.length_ofNat 32 x), Bytes.toNat_ofNat,
    Nat.mod_eq_of_lt hx, hodd, Point.lift?_of_onCurve h]

open Secp256k1 in
/-- **The key of every private key reads back** from its compressed encoding: the scalar is
nonzero below the order of the base point, so its multiple is a point of the curve. -/
theorem PrivateKey.ofBytes_publicKey_toBytes (c : PrivateKey) :
    PublicKey.ofBytes c.publicKey.toBytes = .ok c.publicKey := by
  have hne : Point.smul c.scalar Point.base ≠ .infinity := by
    rw [Ne, Point.smul_base_eq_infinity_iff, Nat.mod_eq_of_lt c.valid.2]
    exact c.valid.1.ne'
  have hpub : c.publicKey = ⟨Point.smul c.scalar Point.base⟩ := rfl
  rw [hpub]
  cases hP : Point.smul c.scalar Point.base with
  | infinity => exact absurd hP hne
  | affine x y => exact PublicKey.ofBytes_toBytes_of_onCurve (Point.onCurve_of_smul_base hP)

/-- An advertisement keeps its identity field as the hexadecimal of its bytes. -/
theorem AdvertisementFields.identityKey_ofFields {fields : List Bytes} {f : AdvertisementFields}
    (h : AdvertisementFields.ofFields fields = .ok f) :
    f.identityKey = Bytes.toHex (fields.getD 1 []) := by
  unfold AdvertisementFields.ofFields at h
  -- every failure is `.error`; the one success keeps the hexadecimal of the second field
  repeat' split at h
  all_goals cases h
  rfl

/-- The identity text an advertisement's fields give is the hexadecimal of the identity field as
written, and it is the `toHex` of the key that field reads as exactly when the field is written
compressed, starting with `02` or `03`. -/
theorem identityKey_eq_toHex_iff {fields : List Bytes} {f : AdvertisementFields} {K : PublicKey}
    (h : AdvertisementFields.ofFields fields = .ok f)
    (hK : PublicKey.ofBytes (fields.getD 1 []) = .ok K) :
    f.identityKey = Bytes.toHex (fields.getD 1 []) ∧
      (f.identityKey = K.toHex ↔
        (fields.getD 1 []).head? = some 2 ∨ (fields.getD 1 []).head? = some 3) := by
  have hid := AdvertisementFields.identityKey_ofFields h
  refine ⟨hid, ?_⟩
  rw [hid, PublicKey.toHex, Bytes.toHex_inj]
  exact PublicKey.toBytes_eq_iff hK

/-- The fields of an advertisement whose identity is the base point written uncompressed. -/
def uncompressedIdentityFields : List Bytes :=
  [Bytes.ofString "SHIP",
    4 :: (Bytes.ofNat 32 0x79be667ef9dcbbac55a06295ce870b07029bfcdb2dce28d959f2815b16f81798 ++
      Bytes.ofNat 32 0x483ada7726a3c4655da4fbfc0e1108a8fd17b448a68554199c47d08ffb10d4b8),
    Bytes.ofString "https://host.example", Bytes.ofString "payments"]

/-- What reading those fields gives. -/
def uncompressedIdentityRead : AdvertisementFields :=
  ⟨.ship, Bytes.toHex (uncompressedIdentityFields.getD 1 []), "https://host.example",
    "payments"⟩

theorem identityKey_eq_toHex_iff_uncompressed :
    AdvertisementFields.ofFields uncompressedIdentityFields = .ok uncompressedIdentityRead ∧
      PublicKey.ofBytes (uncompressedIdentityFields.getD 1 []) = .ok ⟨Secp256k1.Point.base⟩ ∧
      (uncompressedIdentityRead.identityKey = Bytes.toHex (uncompressedIdentityFields.getD 1 []) ∧
        (uncompressedIdentityRead.identityKey = (⟨Secp256k1.Point.base⟩ : PublicKey).toHex ↔
          (uncompressedIdentityFields.getD 1 []).head? = some 2 ∨
            (uncompressedIdentityFields.getD 1 []).head? = some 3)) :=
  have h : AdvertisementFields.ofFields uncompressedIdentityFields =
      .ok uncompressedIdentityRead := by
    have htag : Protocol.ofTagBytes? (Bytes.ofString "SHIP") = some .ship := if_pos rfl
    simp only [uncompressedIdentityFields, AdvertisementFields.ofFields, htag,
      Text.decodeUtf8?_ofString]
    rfl
  have hK : PublicKey.ofBytes (uncompressedIdentityFields.getD 1 []) =
      .ok ⟨Secp256k1.Point.base⟩ := by
    decide
  ⟨h, hK, identityKey_eq_toHex_iff h hK⟩

end ShipSlap
