import Mathlib
import ShipSlap.Proofs.Curve.Jacobian
/-!
The base point of secp256k1 generates the group: it has the prime order `n`
(`addOrderOf_of_represents_base`; the kernel computes `n G = O` once, in Jacobian coordinates,
and `n` is prime). What follows for the model itself, with no curve in the statements:

1. `Point.smul_smul_base`: `a (b G) = (a b) G`; so multiples of multiples of the base point
   commute (`Point.smul_smul_comm`), the symmetry that lets two keys reach one shared secret.
2. `Point.add_smul_base`: `a G + t G = ((a + t) mod n) G`; multiples agree when their scalars
   agree modulo `n` (`Point.smul_base_congr`), and `(n - k) G` is the negative of `k G`
   (`Point.smul_sub_base`).
3. `Point.smul_base_eq_infinity_iff`: `k G` is the point at infinity exactly when `n` divides `k`.
-/
namespace ShipSlap.Secp256k1

theorem Point.exists_represents_base : ∃ G : CurvePoint, Point.base.Represents G :=
  Point.represents_of_onCurve (by decide)

/-- A multiple of the base point, computed in Jacobian coordinates. -/
theorem Point.smul_base_eq_toPoint (k : Nat) :
    Point.smul k Point.base = (Jacobian.smul k Point.base).toPoint := by
  obtain ⟨G, hG⟩ := Point.exists_represents_base
  exact Point.smul_eq_toPoint hG k

/-- `n G` is the point at infinity: the kernel runs the Jacobian ladder over the 256 digits of
`n`. -/
theorem Point.smul_groupOrder_base : Point.smul groupOrder Point.base = .infinity := by
  rw [Point.smul_base_eq_toPoint]
  decide +kernel

/-- The base point has the prime order `n`. -/
theorem addOrderOf_of_represents_base {G : CurvePoint} (hG : Point.base.Represents G) :
    addOrderOf G = groupOrder := by
  have : Fact groupOrder.Prime := ⟨groupOrder_prime⟩
  apply addOrderOf_eq_prime
  · have h : (Point.smul groupOrder Point.base).Represents (groupOrder • G) :=
      Point.represents_smul hG groupOrder
    rw [Point.smul_groupOrder_base, Point.represents_infinity_iff] at h
    exact h
  · -- the base point is affine, so it is no zero
    rintro rfl
    exact hG

/-- A multiple of a multiple of the base point: `a (b G) = (a b) G`. -/
theorem Point.smul_smul_base (a b : Nat) :
    Point.smul a (Point.smul b Point.base) = Point.smul (a * b) Point.base := by
  obtain ⟨G, hG⟩ := Point.exists_represents_base
  have hab := Point.represents_smul (Point.represents_smul hG b) a
  rw [smul_smul] at hab
  exact hab.unique (Point.represents_smul hG (a * b))

/-- Multiples of multiples of the base point commute: `a (b G) = b (a G)`. -/
theorem Point.smul_smul_comm (a b : Nat) :
    Point.smul a (Point.smul b Point.base) = Point.smul b (Point.smul a Point.base) := by
  rw [Point.smul_smul_base, Point.smul_smul_base, Nat.mul_comm]

/-- Adding multiples of the base point adds their scalars modulo `n`. -/
theorem Point.add_smul_base (a t : Nat) :
    (Point.smul a Point.base).add (Point.smul t Point.base) =
      Point.smul ((a + t) % groupOrder) Point.base := by
  obtain ⟨G, hG⟩ := Point.exists_represents_base
  have hsum := Point.represents_add (Point.represents_smul hG a) (Point.represents_smul hG t)
  have hmod : ((a + t) % groupOrder) • G = a • G + t • G := by
    rw [← addOrderOf_of_represents_base hG, mod_addOrderOf_nsmul, add_nsmul]
  exact hsum.unique (hmod ▸ Point.represents_smul hG ((a + t) % groupOrder))

/-- A multiple of the base point depends on its scalar modulo `n` only. -/
theorem Point.smul_mod_base (k : Nat) :
    Point.smul (k % groupOrder) Point.base = Point.smul k Point.base := by
  obtain ⟨G, hG⟩ := Point.exists_represents_base
  have hmod : (k % groupOrder) • G = k • G := by
    rw [← addOrderOf_of_represents_base hG, mod_addOrderOf_nsmul]
  have hk := Point.represents_smul hG (k % groupOrder)
  rw [hmod] at hk
  exact hk.unique (Point.represents_smul hG k)

/-- Multiples of the base point agree when their scalars agree modulo `n`. -/
theorem Point.smul_base_congr {a b : Nat} (h : (a : ZMod groupOrder) = b) :
    Point.smul a Point.base = Point.smul b Point.base := by
  rw [← Point.smul_mod_base a, ← Point.smul_mod_base b,
    (ZMod.natCast_eq_natCast_iff' a b groupOrder).mp h]

/-- `(n - k) G` is the negative of `k G`. -/
theorem Point.smul_sub_base {k : Nat} (hk : k ≤ groupOrder) :
    Point.smul (groupOrder - k) Point.base = (Point.smul k Point.base).neg := by
  obtain ⟨G, hG⟩ := Point.exists_represents_base
  have hneg : (groupOrder - k) • G = -(k • G) := by
    refine eq_neg_of_add_eq_zero_left ?_
    rw [← add_nsmul, Nat.sub_add_cancel hk, ← addOrderOf_of_represents_base hG,
      addOrderOf_nsmul_eq_zero]
  have h := Point.represents_smul hG (groupOrder - k)
  rw [hneg] at h
  exact h.unique (Point.represents_smul hG k).neg

/-- `k G` is the point at infinity exactly when `n` divides `k`. -/
theorem Point.smul_base_eq_infinity_iff (k : Nat) :
    Point.smul k Point.base = .infinity ↔ k % groupOrder = 0 := by
  obtain ⟨G, hG⟩ := Point.exists_represents_base
  have hk := Point.represents_smul hG k
  rw [← Nat.dvd_iff_mod_eq_zero, ← addOrderOf_of_represents_base hG,
    addOrderOf_dvd_iff_nsmul_eq_zero]
  constructor
  · intro h
    rw [h] at hk
    exact Iff.mp Point.represents_infinity_iff hk
  · intro h
    rw [h] at hk
    exact hk.unique (Iff.mpr Point.represents_infinity_iff rfl)

end ShipSlap.Secp256k1
