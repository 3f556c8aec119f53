import Mathlib
import ShipSlap.Proofs.Curve.Group
/-!
Multiples in Jacobian coordinates. A triple `(X, Y, Z)` of numbers stands for the affine point
`(X / Z ^ 2, Y / Z ^ 3)`, and for the point at infinity when `Z` is zero; doubling and adding an
affine point take no inverse there, so a multiple costs one inverse, at the end, where the
affine ladder of `Point.smul` takes one at every step. Main statement: `Point.smul_eq_toPoint`,
the multiple of a point of the curve is the Jacobian multiple brought back to affine
coordinates; this is how the kernel evaluates a multiple of the base point.

1. `Jacobian.represents_double`, `Jacobian.represents_add`: the formulas stand for the group law.
2. `Jacobian.represents_smul`: the Jacobian ladder stands for `k •`.
3. `Jacobian.Represents.toPoint`: a triple brought back is the affine point it stands for.
-/
namespace ShipSlap.Secp256k1

open WeierstrassCurve.Affine

/-- A point in Jacobian coordinates. -/
structure Jacobian where
  x : Nat
  y : Nat
  z : Nat

namespace Jacobian

/-- The point at infinity. -/
def zero : Jacobian := ⟨1, 1, 0⟩

/-- Twice a point (`dbl-2009-l`, for a curve with `a = 0`). The double of a point of order two
gets `Z = 2 Y Z = 0`, the point at infinity, with no case of its own. -/
def double (P : Jacobian) : Jacobian :=
  let p := fieldPrime
  let yy := P.y * P.y % p
  let s := 4 * P.x % p * yy % p
  let m := 3 * (P.x * P.x % p) % p
  let x3 := subMod p (m * m % p) (2 * s % p)
  let y3 := subMod p (m * subMod p s x3 % p) (8 * (yy * yy % p) % p)
  ⟨x3, y3, 2 * P.y % p * P.z % p⟩

/-- The sum with a point of the model in affine coordinates (mixed addition). As in `Point.add`,
the point at infinity is the zero, and two points with one abscissa are a point and its double or
a point and its negative. -/
def add (P : Jacobian) : Point → Jacobian
  | .infinity => P
  | .affine x2 y2 =>
    let p := fieldPrime
    if P.z % p = 0 then ⟨x2, y2, 1⟩
    else
      let zz := P.z * P.z % p
      let u2 := x2 * zz % p
      let s2 := y2 * (zz * P.z % p) % p
      if P.x % p = u2 then
        if P.y % p = s2 then P.double else zero
      else
        let h := subMod p u2 P.x
        let r := subMod p s2 P.y
        let hh := h * h % p
        let hhh := hh * h % p
        let v := P.x * hh % p
        let x3 := subMod p (subMod p (r * r % p) hhh) (2 * v % p)
        let y3 := subMod p (r * subMod p v x3 % p) (P.y * hhh % p)
        ⟨x3, y3, P.z * h % p⟩

/-- `k` times a point, by the ladder of `Point.smul` in Jacobian coordinates. -/
def smul (k : Nat) (pt : Point) : Jacobian :=
  (Point.bits k).reverse.foldl (fun acc b => if b then (double acc).add pt else double acc) zero

/-- The affine point a triple stands for, with one inverse. -/
def toPoint (P : Jacobian) : Point :=
  let p := fieldPrime
  if P.z % p = 0 then .infinity
  else
    let zi := invMod p P.z
    let zi2 := zi * zi % p
    .affine (P.x * zi2 % p) (P.y * (zi2 * zi % p) % p)

/-- A triple stands for the point `(X / Z ^ 2, Y / Z ^ 3)` of the curve, or for the zero when `Z`
is zero. A triple standing for an affine point has its first two coordinates below the prime, as
the formulas keep them. -/
def Represents (P : Jacobian) : CurvePoint → Prop
  | .zero => (P.z : Fp) = 0
  | .some x y _ => P.x < fieldPrime ∧ P.y < fieldPrime ∧ (P.z : Fp) ≠ 0 ∧
      (P.x : Fp) = x * P.z ^ 2 ∧ (P.y : Fp) = y * P.z ^ 3

theorem represents_zero_iff {P : Jacobian} : P.Represents 0 ↔ (P.z : Fp) = 0 :=
  Iff.rfl

theorem cast_eq_zero_iff (a : Nat) : (a : Fp) = 0 ↔ a % fieldPrime = 0 := by
  rw [← Nat.cast_zero, ZMod.natCast_eq_natCast_iff', Nat.zero_mod]

/-- Comparing a number modulo the prime with a reduced one compares them in the field. -/
theorem mod_eq_iff_cast_eq {a b : Nat} (hb : b < fieldPrime) :
    a % fieldPrime = b ↔ (a : Fp) = b := by
  rw [ZMod.natCast_eq_natCast_iff', Nat.mod_eq_of_lt hb]

/-- A triple with `Z` zero stands for the zero only. -/
theorem Represents.eq_zero {P : Jacobian} {X : CurvePoint} (h : P.Represents X)
    (hz : (P.z : Fp) = 0) : X = 0 := by
  cases X with
  | zero => rfl
  | some x y _ => exact absurd hz h.2.2.1

theorem represents_zero : zero.Represents 0 :=
  Nat.cast_zero

/-! ## Doubling -/

theorem cast_double_z (P : Jacobian) : (P.double.z : Fp) = 2 * P.y * P.z := by
  simp only [double, cast_mod, Nat.cast_mul, Nat.cast_ofNat]

/-- On the curve a nonzero ordinate is not its own negative. -/
theorem ne_negY_of_ne_zero {x y : Fp} (hy : y ≠ 0) : y ≠ curve.toAffine.negY x y := by
  rw [curve_negY]
  intro h
  exact hy ((mul_eq_zero.mp (show (2 : Fp) * y = 0 by linear_combination h)).resolve_left
    two_ne_zero_Fp)

/-- Doubling stands for adding a point to itself. -/
theorem represents_double {P : Jacobian} {X : CurvePoint} (h : P.Represents X) :
    P.double.Represents (X + X) := by
  cases X with
  | zero =>
    change P.double.Represents (0 + 0)
    rw [add_zero, represents_zero_iff, cast_double_z, Iff.mp represents_zero_iff h, mul_zero]
  | some x y hxy =>
    obtain ⟨hx, hy, hz, hX, hY⟩ := h
    by_cases hy0 : y = 0
    · -- a point of order two: its double is the zero, and `Z = 2 Y Z` is zero
      subst hy0
      rw [Point.add_self_of_Y_eq (by rw [curve_negY, neg_zero]), represents_zero_iff,
        cast_double_z, hY]
      ring
    · have hneg := ne_negY_of_ne_zero (x := x) hy0
      have hslope : curve.toAffine.slope x x y y = 3 * x ^ 2 / (2 * y) := by
        rw [slope_of_Y_ne rfl hneg, curve_negY]
        simp
        ring
      rw [Point.add_self_of_Y_ne hneg]
      refine ⟨subMod_lt _ _, subMod_lt _ _, ?_, ?_, ?_⟩
      · rw [cast_double_z, hY]
        exact mul_ne_zero (mul_ne_zero two_ne_zero_Fp (mul_ne_zero hy0 (pow_ne_zero 3 hz))) hz
      · rw [addX, hslope, cast_double_z]
        simp only [double, cast_subMod, cast_mod, Nat.cast_mul, Nat.cast_ofNat,
          mod_le_fieldPrime]
        rw [hX, hY]
        simp only [curve_a₁, curve_a₂]
        field_simp [two_ne_zero_Fp]
        ring
      · rw [addY, negAddY, addX, hslope, curve_negY, cast_double_z]
        simp only [double, cast_subMod, cast_mod, Nat.cast_mul, Nat.cast_ofNat, subMod_le,
          mod_le_fieldPrime]
        rw [hX, hY]
        simp only [curve_a₁, curve_a₂]
        field_simp [two_ne_zero_Fp]
        ring

/-! ## Adding an affine point -/

/-- Adding stands for adding: an affine point of the model is added along the chord, and the
cases of `Point.add` come from comparing its coordinates with the triple's scaled ones. -/
theorem represents_add {P : Jacobian} {X : CurvePoint} (hP : P.Represents X) {pt : Point}
    {Y : CurvePoint} (hpt : pt.Represents Y) : (P.add pt).Represents (X + Y) := by
  cases pt with
  | infinity =>
    obtain rfl := Iff.mp Point.represents_infinity_iff hpt
    rwa [add, add_zero]
  | affine x2 y2 =>
    cases Y with
    | zero => exact hpt.elim
    | some X2 Y2 h2 =>
    obtain ⟨hx2, hy2, rfl, rfl⟩ := hpt
    by_cases hz : P.z % fieldPrime = 0
    · -- adding to the zero
      rw [hP.eq_zero ((cast_eq_zero_iff _).mpr hz), zero_add]
      simp only [add, if_pos hz]
      exact ⟨hx2, hy2, one_ne_zero, by simp, by simp⟩
    · cases X with
      | zero => exact absurd ((cast_eq_zero_iff _).mp hP) hz
      | some x1 y1 h1 =>
      obtain ⟨hx1, hy1, hZ, hX, hY⟩ := hP
      have hxiff : P.x % fieldPrime = x2 * (P.z * P.z % fieldPrime) % fieldPrime ↔
          x1 = x2 := by
        rw [mod_eq_iff_cast_eq (Nat.mod_lt _ fieldPrime_pos)]
        simp only [cast_mod, Nat.cast_mul, Nat.cast_pow, hX, ← pow_two]
        exact mul_left_inj' (pow_ne_zero 2 hZ)
      have hyiff : P.y % fieldPrime =
          y2 * (P.z * P.z % fieldPrime * P.z % fieldPrime) % fieldPrime ↔ y1 = y2 := by
        rw [mod_eq_iff_cast_eq (Nat.mod_lt _ fieldPrime_pos)]
        simp only [cast_mod, Nat.cast_mul, hY]
        rw [show (P.z : Fp) * P.z * P.z = P.z ^ 3 by ring]
        exact mul_left_inj' (pow_ne_zero 3 hZ)
      by_cases hx : x1 = x2
      · subst hx
        by_cases hy : y1 = y2
        · -- the same point twice: its double
          subst hy
          simp only [add, if_neg hz, if_pos (hxiff.mpr rfl), if_pos (hyiff.mpr rfl)]
          exact represents_double ⟨hx1, hy1, hZ, hX, hY⟩
        · -- a point and its negative
          have hneg := (Y_eq_of_X_eq h1.1 h2.1 rfl).resolve_left hy
          rw [Point.add_of_Y_eq rfl hneg]
          simp only [add, if_neg hz, if_pos (hxiff.mpr rfl), if_neg (mt hyiff.mp hy)]
          exact represents_zero
      · -- the chord
        have hsub : x1 - x2 ≠ 0 := sub_ne_zero.mpr hx
        rw [Point.add_of_X_ne hx]
        simp only [add, if_neg hz, if_neg (mt hxiff.mp hx)]
        refine ⟨subMod_lt _ _, subMod_lt _ _, ?_, ?_, ?_⟩
        · simp only [cast_mod, Nat.cast_mul, cast_subMod, hx1.le]
          rw [hX]
          have hH : (x2 : Fp) * (P.z * P.z) - x1 * P.z ^ 2 = P.z ^ 2 * -(x1 - x2) := by ring
          rw [hH]
          exact mul_ne_zero hZ (mul_ne_zero (pow_ne_zero 2 hZ) (neg_ne_zero.mpr hsub))
        · rw [addX, slope_of_X_ne hx]
          simp only [cast_mod, Nat.cast_mul, Nat.cast_ofNat, cast_subMod, mod_le_fieldPrime,
            hx1.le, hy1.le]
          rw [hX, hY]
          simp only [curve_a₁, curve_a₂]
          field_simp
          ring
        · rw [addY, negAddY, addX, slope_of_X_ne hx, curve_negY]
          simp only [cast_mod, Nat.cast_mul, Nat.cast_ofNat, cast_subMod, mod_le_fieldPrime,
            subMod_le, hx1.le, hy1.le]
          rw [hX, hY]
          simp only [curve_a₁, curve_a₂]
          field_simp
          ring

/-! ## Multiples -/

/-- The Jacobian ladder stands for `k •`. -/
theorem represents_smul {pt : Point} {X : CurvePoint} (h : pt.Represents X) (k : Nat) :
    (smul k pt).Represents (k • X) :=
  represents_foldl_bits Represents represents_zero represents_double
    (fun hY => represents_add hY h) k

/-- Bringing a triple back to affine coordinates gives the point it stands for. -/
theorem Represents.toPoint {P : Jacobian} {X : CurvePoint} (h : P.Represents X) :
    P.toPoint.Represents X := by
  cases X with
  | zero =>
    simp only [Jacobian.toPoint, if_pos ((cast_eq_zero_iff _).mp h)]
    exact Iff.mpr Point.represents_infinity_iff rfl
  | some x y _ =>
    obtain ⟨-, -, hz, hX, hY⟩ := h
    simp only [Jacobian.toPoint, if_neg (mt (cast_eq_zero_iff _).mpr hz)]
    refine ⟨Nat.mod_lt _ fieldPrime_pos, Nat.mod_lt _ fieldPrime_pos, ?_, ?_⟩
    · simp only [cast_mod, Nat.cast_mul, cast_invMod, hX]
      field_simp
    · simp only [cast_mod, Nat.cast_mul, cast_invMod, hY]
      field_simp

end Jacobian

/-- The multiple of a point of the curve is the Jacobian multiple brought back to affine
coordinates. -/
theorem Point.smul_eq_toPoint {pt : Point} {X : CurvePoint} (h : pt.Represents X) (k : Nat) :
    Point.smul k pt = (Jacobian.smul k pt).toPoint :=
  (Point.represents_smul h k).unique (Jacobian.represents_smul h k).toPoint

end ShipSlap.Secp256k1
