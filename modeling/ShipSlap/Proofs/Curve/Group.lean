import Mathlib
import ShipSlap.Curve.Point
import ShipSlap.Proofs.Curve.Prime
/-!
The points of the model are the group of secp256k1. A point of the model whose coordinates lie
on the curve stands for a point of the Weierstrass curve `y ^ 2 = x ^ 3 + 7` over the field of
`p` elements (`Point.Represents`), and the chord-and-tangent formulas the model computes on
representatives, with Fermat's inverse, are the group law there:

1. `represents_add`, `represents_double`, `Represents.neg`: sums, doubles and negatives stand for
   themselves.
2. `represents_smul`: `smul k`, by doubling and adding over the binary digits of `k`, stands for
   `k •`; the ladder itself is `represents_foldl_bits`, for any values that stand for points.
-/
namespace ShipSlap.Secp256k1

/-- The coordinate field. -/
abbrev Fp : Type := ZMod fieldPrime

instance : Fact fieldPrime.Prime := ⟨fieldPrime_prime⟩

/-- secp256k1 as a Weierstrass curve over the coordinate field: `y ^ 2 = x ^ 3 + 7`. -/
def curve : WeierstrassCurve Fp := ⟨0, 0, 0, 0, 7⟩

@[simp] theorem curve_a₁ : curve.a₁ = 0 := rfl

@[simp] theorem curve_a₂ : curve.a₂ = 0 := rfl

@[simp] theorem curve_a₃ : curve.a₃ = 0 := rfl

@[simp] theorem curve_a₄ : curve.a₄ = 0 := rfl

@[simp] theorem curve_a₆ : curve.a₆ = 7 := rfl

/-- The points of the curve, with its group law. -/
abbrev CurvePoint : Type := curve.toAffine.Point

open WeierstrassCurve.Affine

theorem two_lt_fieldPrime : 2 < fieldPrime := by
  unfold fieldPrime
  decide

theorem fieldPrime_pos : 0 < fieldPrime :=
  Nat.zero_lt_of_lt two_lt_fieldPrime

/-! ## Representatives -/

theorem cast_mod (a : Nat) : ((a % fieldPrime : Nat) : Fp) = a :=
  ZMod.natCast_mod a fieldPrime

theorem cast_subMod (a : Nat) {b : Nat} (hb : b ≤ fieldPrime) :
    ((subMod fieldPrime a b : Nat) : Fp) = a - b := by
  rw [subMod, cast_mod, Nat.cast_add, Nat.cast_sub hb, ZMod.natCast_self, zero_sub,
    sub_eq_add_neg]

/-- Fermat's inverse is the inverse of the field (and zero at zero). -/
theorem cast_invMod (a : Nat) : ((invMod fieldPrime a : Nat) : Fp) = (a : Fp)⁻¹ :=
  cast_invMod_of_prime two_lt_fieldPrime a

theorem cast_inj {x y : Nat} (hx : x < fieldPrime) (hy : y < fieldPrime) :
    (x : Fp) = y ↔ x = y := by
  rw [ZMod.natCast_eq_natCast_iff', Nat.mod_eq_of_lt hx, Nat.mod_eq_of_lt hy]

/-! ## The curve -/

theorem curve_equation_iff (X Y : Fp) : curve.toAffine.Equation X Y ↔ Y ^ 2 = X ^ 3 + 7 := by
  rw [equation_iff]
  simp

theorem curve_negY (X Y : Fp) : curve.toAffine.negY X Y = -Y := by
  simp [negY]

/-- Over a field of characteristic neither 2 nor 3 the curve is smooth. -/
theorem curve_Δ_ne_zero : curve.Δ ≠ 0 := by
  have hΔ : curve.Δ = -21168 := by
    simp only [WeierstrassCurve.Δ, WeierstrassCurve.b₂, WeierstrassCurve.b₄,
      WeierstrassCurve.b₆, WeierstrassCurve.b₈, curve_a₁, curve_a₂, curve_a₃, curve_a₄, curve_a₆]
    ring
  rw [hΔ]
  decide

theorem nonsingular_of_equation {X Y : Fp} (h : curve.toAffine.Equation X Y) :
    curve.toAffine.Nonsingular X Y :=
  (equation_iff_nonsingular_of_Δ_ne_zero curve_Δ_ne_zero).mp h

/-- The equation of the model, on numbers below the prime, is the curve's. -/
theorem Point.onCurve_iff {x y : Nat} :
    Point.OnCurve x y ↔ x < fieldPrime ∧ y < fieldPrime ∧ curve.toAffine.Equation x y := by
  rw [Point.OnCurve, curve_equation_iff, ← ZMod.natCast_eq_natCast_iff']
  push_cast [cast_mod]
  rw [pow_two, pow_three, mul_assoc]

/-- A point of the model stands for the point of the curve with the same coordinates, taken as
field elements, when they are below the prime. -/
def Point.Represents : Point → CurvePoint → Prop
  | .infinity, .zero => True
  | .affine x y, .some X Y _ => x < fieldPrime ∧ y < fieldPrime ∧ (x : Fp) = X ∧ (y : Fp) = Y
  | _, _ => False

@[simp] theorem Point.represents_infinity_zero : Point.infinity.Represents .zero ↔ True := Iff.rfl

@[simp] theorem Point.represents_affine_some {x y : Nat} {X Y : Fp}
    (h : curve.toAffine.Nonsingular X Y) : (Point.affine x y).Represents (.some X Y h) ↔
      x < fieldPrime ∧ y < fieldPrime ∧ (x : Fp) = X ∧ (y : Fp) = Y := Iff.rfl

@[simp] theorem Point.represents_infinity_some {X Y : Fp} (h : curve.toAffine.Nonsingular X Y) :
    Point.infinity.Represents (.some X Y h) ↔ False := Iff.rfl

@[simp] theorem Point.represents_affine_zero {x y : Nat} :
    (Point.affine x y).Represents .zero ↔ False := Iff.rfl

theorem Point.represents_infinity_iff {P : CurvePoint} : Point.infinity.Represents P ↔ P = 0 := by
  cases P with
  | zero => exact iff_of_true trivial rfl
  | some X Y h => exact iff_of_false id (WeierstrassCurve.Affine.Point.some_ne_zero h)

/-- Two points of the model that stand for one point of the curve are equal. -/
theorem Point.Represents.unique {P Q : Point} {X : CurvePoint} (hP : P.Represents X)
    (hQ : Q.Represents X) : P = Q := by
  cases P <;> cases Q <;> cases X <;>
    simp only [Point.represents_infinity_zero, Point.represents_affine_some,
      Point.represents_infinity_some, Point.represents_affine_zero] at hP hQ
  · rfl
  · obtain ⟨hx, hy, rfl, rfl⟩ := hP
    obtain ⟨hx', hy', hxx, hyy⟩ := hQ
    rw [(cast_inj hx' hx).mp hxx, (cast_inj hy' hy).mp hyy]

theorem Point.represents_of_onCurve {x y : Nat} (h : Point.OnCurve x y) :
    ∃ P : CurvePoint, (Point.affine x y).Represents P := by
  obtain ⟨hx, hy, heq⟩ := Iff.mp Point.onCurve_iff h
  exact ⟨.some _ _ (nonsingular_of_equation heq), hx, hy, rfl, rfl⟩

/-! ## The group law -/

theorem two_ne_zero_Fp : (2 : Fp) ≠ 0 := by
  decide

theorem subMod_lt (a b : Nat) : subMod fieldPrime a b < fieldPrime :=
  Nat.mod_lt _ fieldPrime_pos

theorem subMod_le (a b : Nat) : subMod fieldPrime a b ≤ fieldPrime :=
  (subMod_lt a b).le

theorem mod_le_fieldPrime (a : Nat) : a % fieldPrime ≤ fieldPrime :=
  (Nat.mod_lt _ fieldPrime_pos).le

/-- Doubling along the tangent stands for adding a point to itself. -/
theorem Point.represents_double {P : Point} {X : CurvePoint} (hP : P.Represents X) :
    P.double.Represents (X + X) := by
  cases P with
  | infinity =>
    obtain rfl := Iff.mp Point.represents_infinity_iff hP
    exact Iff.mpr Point.represents_infinity_iff (add_zero 0)
  | affine x y =>
    cases X with
    | zero => exact hP.elim
    | some X Y h =>
      obtain ⟨hx, hy, rfl, rfl⟩ := hP
      by_cases hy0 : y = 0
      · -- a point of order two: the tangent is vertical
        subst hy0
        rw [Point.double, if_pos rfl,
          WeierstrassCurve.Affine.Point.add_self_of_Y_eq (by simp [negY])]
        exact Iff.mpr Point.represents_infinity_iff rfl
      · have hY : (y : Fp) ≠ 0 := by
          rw [← Nat.cast_zero, Ne, cast_inj hy fieldPrime_pos]
          exact hy0
        have hneg : (y : Fp) ≠ curve.toAffine.negY x y := by
          rw [curve_negY]
          intro h
          exact hY ((mul_eq_zero.mp (show (2 : Fp) * y = 0 by linear_combination h)).resolve_left
            two_ne_zero_Fp)
        rw [WeierstrassCurve.Affine.Point.add_self_of_Y_ne hneg, Point.double, if_neg hy0]
        have hslope : curve.toAffine.slope x x y y = 3 * (x : Fp) ^ 2 * (2 * (y : Fp))⁻¹ := by
          rw [slope_of_Y_ne rfl hneg, curve_negY]
          simp
          ring
        refine ⟨subMod_lt _ _, subMod_lt _ _, ?_, ?_⟩
        · rw [addX, hslope]
          simp only [cast_subMod, cast_mod, cast_invMod, Nat.cast_mul, Nat.cast_ofNat,
            mod_le_fieldPrime]
          simp
          ring
        · rw [addY, negAddY, addX, hslope, curve_negY]
          simp only [cast_subMod, cast_mod, cast_invMod, Nat.cast_mul, Nat.cast_ofNat, subMod_le,
            mod_le_fieldPrime, hy.le]
          simp
          ring

/-- Adding along the chord stands for adding: the point at infinity is the zero, two points
with one abscissa are a point and its double or a point and its negative, and two points with
different abscissae add along the line through them. -/
theorem Point.represents_add {P Q : Point} {X Y : CurvePoint} (hP : P.Represents X)
    (hQ : Q.Represents Y) : (P.add Q).Represents (X + Y) := by
  cases P with
  | infinity =>
    obtain rfl := Iff.mp Point.represents_infinity_iff hP
    rwa [Point.add, zero_add]
  | affine x1 y1 =>
    cases X with
    | zero => exact hP.elim
    | some X1 Y1 h1 =>
    cases Q with
    | infinity =>
      obtain rfl := Iff.mp Point.represents_infinity_iff hQ
      have hadd : (Point.affine x1 y1).add .infinity = .affine x1 y1 := rfl
      rwa [hadd, add_zero]
    | affine x2 y2 =>
      cases Y with
      | zero => exact hQ.elim
      | some X2 Y2 h2 =>
      obtain ⟨hx1, hy1, rfl, rfl⟩ := hP
      obtain ⟨hx2, hy2, rfl, rfl⟩ := hQ
      rw [Point.add]
      by_cases hx : x1 = x2
      · subst hx
        by_cases hy : y1 = y2
        · -- the same point twice: its double
          subst hy
          rw [if_pos rfl, if_pos rfl]
          exact Point.represents_double ⟨hx1, hy1, rfl, rfl⟩
        · -- a point and its negative
          have hY : (y1 : Fp) = curve.toAffine.negY x1 y2 :=
            (Y_eq_of_X_eq h1.1 h2.1 rfl).resolve_left (by rwa [cast_inj hy1 hy2])
          rw [if_pos rfl, if_neg hy, WeierstrassCurve.Affine.Point.add_of_Y_eq rfl hY]
          exact Iff.mpr Point.represents_infinity_iff rfl
      · have hX : (x1 : Fp) ≠ x2 := by rwa [Ne, cast_inj hx1 hx2]
        have hsub : (x1 : Fp) - x2 ≠ 0 := sub_ne_zero.mpr hX
        have hsub' : (x2 : Fp) - x1 ≠ 0 := sub_ne_zero.mpr hX.symm
        rw [if_neg hx, WeierstrassCurve.Affine.Point.add_of_X_ne hX]
        refine ⟨subMod_lt _ _, subMod_lt _ _, ?_, ?_⟩
        · rw [addX, slope_of_X_ne hX]
          simp only [cast_subMod, cast_mod, cast_invMod, Nat.cast_mul, hx1.le, hx2.le, hy1.le]
          simp only [curve_a₁, curve_a₂]
          field_simp
          ring
        · rw [addY, negAddY, addX, slope_of_X_ne hX, curve_negY]
          simp only [cast_subMod, cast_mod, cast_invMod, Nat.cast_mul, hx1.le, hx2.le, hy1.le,
            subMod_le]
          simp only [curve_a₁, curve_a₂]
          field_simp
          ring

/-- The negative of a point stands for the negative. -/
theorem Point.Represents.neg {P : Point} {X : CurvePoint} (h : P.Represents X) :
    P.neg.Represents (-X) := by
  cases P with
  | infinity =>
    obtain rfl := Iff.mp Point.represents_infinity_iff h
    exact Iff.mpr Point.represents_infinity_iff neg_zero
  | affine x y =>
    cases X with
    | zero => exact h.elim
    | some X Y hXY =>
      obtain ⟨hx, hy, rfl, rfl⟩ := h
      rw [WeierstrassCurve.Affine.Point.neg_some]
      refine ⟨hx, Nat.mod_lt _ fieldPrime_pos, rfl, ?_⟩
      rw [cast_mod, Nat.cast_sub hy.le, ZMod.natCast_self, zero_sub, curve_negY]

/-! ## Multiples -/

theorem Point.bits_eq (k : Nat) :
    Point.bits k = if k = 0 then [] else decide (k % 2 = 1) :: Point.bits (k / 2) := by
  rw [Point.bits, dite_eq_ite]

theorem Point.bits_of_ne_zero {k : Nat} (hk : k ≠ 0) :
    Point.bits k = decide (k % 2 = 1) :: Point.bits (k / 2) := by
  rw [Point.bits_eq, if_neg hk]

theorem Point.bits_zero : Point.bits 0 = [] := by
  rw [Point.bits_eq, if_pos rfl]

theorem Point.smul_eq (k : Nat) (pt : Point) : Point.smul k pt =
    (Point.bits k).reverse.foldl (fun acc b => if b then (acc.double).add pt else acc.double)
      .infinity := rfl

theorem Point.smul_zero (pt : Point) : Point.smul 0 pt = .infinity := by
  rw [Point.smul_eq, Point.bits_zero]
  rfl

/-- A multiple is the double of the multiple by half the scalar, and the point added once more
when the scalar is odd. -/
theorem Point.smul_of_ne_zero {k : Nat} (hk : k ≠ 0) (pt : Point) :
    Point.smul k pt = if k % 2 = 1 then (Point.smul (k / 2) pt).double.add pt
      else (Point.smul (k / 2) pt).double := by
  rw [Point.smul_eq, Point.bits_of_ne_zero hk, List.reverse_cons, List.foldl_append,
    Point.smul_eq]
  simp

/-- Doubling and adding a point over the binary digits of `k`, most significant first, from a
value that stands for zero, gives a value that stands for `k` times the point; this holds of any
values standing for points whose doubling and adding stand for the group's. The induction follows
the halving of the scalar. -/
theorem represents_foldl_bits {α : Type} (R : α → CurvePoint → Prop) {dbl addPt : α → α}
    {a₀ : α} {X : CurvePoint} (h₀ : R a₀ 0) (hdbl : ∀ {a Y}, R a Y → R (dbl a) (Y + Y))
    (hadd : ∀ {a Y}, R a Y → R (addPt a) (Y + X)) (k : Nat) :
    R ((Point.bits k).reverse.foldl (fun acc b => if b then addPt (dbl acc) else dbl acc) a₀)
      (k • X) := by
  induction k using Nat.strong_induction_on with
  | _ k ih =>
    rcases Nat.eq_zero_or_pos k with rfl | hk
    · rw [Point.bits_zero, zero_nsmul]
      exact h₀
    · have hhalf := hdbl (ih (k / 2) (Nat.div_lt_self hk (by norm_num)))
      rw [Point.bits_of_ne_zero hk.ne', List.reverse_cons, List.foldl_append, List.foldl_cons,
        List.foldl_nil]
      split_ifs with hodd <;> rw [decide_eq_true_iff] at hodd
      · convert hadd hhalf using 1
        rw [← add_nsmul, ← succ_nsmul]
        congr 1
        omega
      · convert hhalf using 1
        rw [← add_nsmul]
        congr 1
        omega

/-- `smul k` stands for `k •`. -/
theorem Point.represents_smul {P : Point} {X : CurvePoint} (hP : P.Represents X) (k : Nat) :
    (Point.smul k P).Represents (k • X) :=
  represents_foldl_bits Point.Represents (Iff.mpr Point.represents_infinity_iff rfl)
    Point.represents_double (fun h => Point.represents_add h hP) k

end ShipSlap.Secp256k1
