import Mathlib
import ShipSlap.Lookup.Query
/-!
Window counts of a lookup query. `limit` and `skip` arrive as JSON numbers in one of three
classes: an unsigned 64-bit integer, a negative 64-bit integer, or a finite binary64 float. Read
through the exact value of the number (`JsonNumber.value`, a float taken as `± mant · 2 ^ exp`),
the reader refuses negative values as negative, takes whole values up to `2 ^ 64` and refuses
everything else as not an integer (`nonNegativeInteger_eq`).

The top of that range is where the float branch differs from the integer branch. It compares
against `2 ^ 64`, the float nearest to `2 ^ 64 - 1`, and converts with saturation, so the float
`2 ^ 64` is taken as `2 ^ 64 - 1` (`nonNegativeInteger_two_pow_64`). Every other accepted
value is taken exactly: the largest float below `2 ^ 64` is `2 ^ 64 - 2048`.

The float lemmas go through the magnitude `(num, den)` the model computes with: the value of a
finite float is `± num / den`, and order, integrality and conversion are facts about that ratio.
-/
namespace ShipSlap

namespace Binary64

/-- The exact value of a finite number, `± mant · 2 ^ exp`; infinities and NaN read as zero. -/
def value : Binary64 → ℚ
  | .finite s m e => (if s then -1 else 1) * (m * (2 : ℚ) ^ e)
  | _ => 0

theorem magnitude_eq (m : Nat) (e : Int) : magnitude m e = (m * (pow2 e).1, (pow2 e).2) := rfl

theorem signedRatio_eq (s : Bool) (m : Nat) (e : Int) :
    signedRatio s m e = (s && (magnitude m e).1 != 0, (magnitude m e).1, (magnitude m e).2) :=
  rfl

theorem pow2_snd_pos (e : Int) : 0 < (pow2 e).2 := by
  unfold pow2
  split <;> simp [Nat.pow_eq]

theorem pow2_div (e : Int) : ((pow2 e).1 : ℚ) / (pow2 e).2 = 2 ^ e := by
  unfold pow2
  split
  · rename_i he
    simp only [Nat.pow_eq, Nat.cast_pow, Nat.cast_ofNat, Nat.cast_one, div_one]
    rw [← zpow_natCast, Int.toNat_of_nonneg he]
  · rename_i he
    simp only [Nat.pow_eq, Nat.cast_pow, Nat.cast_ofNat, Nat.cast_one]
    rw [← zpow_natCast, Int.toNat_of_nonneg (by omega), zpow_neg, one_div, inv_inv]

theorem magnitude_div (m : Nat) (e : Int) :
    ((magnitude m e).1 : ℚ) / (magnitude m e).2 = m * 2 ^ e := by
  rw [magnitude_eq, Nat.cast_mul, mul_div_assoc, pow2_div]

section Finite

variable (s : Bool) (m : Nat) (e : Int)

/-- A finite value is negative exactly when its sign is set and its magnitude is not zero. -/
theorem value_neg_iff : (finite s m e).value < 0 ↔ (s && (magnitude m e).1 != 0) = true := by
  have hden : (0 : ℚ) < (magnitude m e).2 := by
    rw [magnitude_eq]
    exact_mod_cast pow2_snd_pos e
  have hval : (finite s m e).value =
      (if s then -1 else 1) * ((magnitude m e).1 / (magnitude m e).2) := by
    rw [magnitude_div]
    rfl
  rw [hval]
  cases s <;> by_cases hn : (magnitude m e).1 = 0 <;>
    simp [hn, hden, div_nonneg, Nat.pos_of_ne_zero]

/-- A finite value that is not negative is its magnitude, whatever its sign. -/
theorem value_of_not_neg (hs : (s && (magnitude m e).1 != 0) = false) :
    (finite s m e).value = (magnitude m e).1 / (magnitude m e).2 := by
  rw [magnitude_div]
  cases s
  · simp [value]
  · -- a negative zero
    have hn : (magnitude m e).1 = 0 := by simpa using hs
    have hm : (m : ℚ) * 2 ^ e = 0 := by rw [← magnitude_div, hn]; simp
    simp [value, hm]

theorem lt_zero_iff :
    (finite s m e).lt (zero false) = true ↔ (s && (magnitude m e).1 != 0) = true := by
  have hz : (magnitude 0 minExp).1 = 0 := by simp [magnitude_eq]
  simp only [lt, compare?, zero, signedRatio_eq, hz]
  generalize magnitude m e = nb
  obtain ⟨n, b⟩ := nb
  cases s <;> by_cases hn : n = 0 <;> simp [hn, Ord.compare, compareOfLessAndEq]

theorem ofNat_two_pow_64 : ofNat (Nat.pow 2 64) = finite false (Nat.pow 2 52) 12 := by decide

/-- Against `2 ^ 64`, a value that is not negative compares by its magnitude. -/
theorem le_two_pow_64_iff (hs : (s && (magnitude m e).1 != 0) = false) :
    (finite s m e).le (ofNat (Nat.pow 2 64)) = true ↔
      (magnitude m e).1 ≤ 2 ^ 64 * (magnitude m e).2 := by
  have htop : magnitude (Nat.pow 2 52) 12 = (2 ^ 64, 1) := by decide
  simp only [le, compare?, ofNat_two_pow_64, signedRatio_eq, htop]
  revert hs
  generalize magnitude m e = nb
  obtain ⟨n, b⟩ := nb
  intro hs
  simp only [hs]
  simp [Ord.compare, compareOfLessAndEq]
  omega

theorem isInteger_iff :
    (finite s m e).isInteger = true ↔ (magnitude m e).2 ∣ (magnitude m e).1 := by
  simp only [isInteger, magnitude_eq, pow2]
  split
  · rename_i he
    simp [he]
  · rename_i he
    simp [he, Nat.dvd_iff_mod_eq_zero]

/-- A value that is not negative converts to its floor, saturated. -/
theorem toNatSat_of_not_neg (bits : Nat) (hs : (s && (magnitude m e).1 != 0) = false) :
    (finite s m e).toNatSat bits =
      min ((magnitude m e).1 / (magnitude m e).2) (Nat.pow 2 bits - 1) := by
  cases s
  · rfl
  · have hn : (magnitude m e).1 = 0 := by simpa using hs
    simp [toNatSat, hn]

end Finite

end Binary64

/-! ## JSON numbers -/

namespace JsonNumber

/-- The exact value of a number. -/
def value : JsonNumber → ℚ
  | .nat n => n
  | .negInt n => n
  | .float f => f.value

/-- A number as the JSON reader gives it: an unsigned integer below `2 ^ 64`, a negative
integer from `-2 ^ 63`, or a finite float. -/
def InRange : JsonNumber → Prop
  | .nat n => n < 2 ^ 64
  | .negInt n => -2 ^ 63 ≤ n ∧ n < 0
  | .float f => f.isFinite = true

instance (v : JsonNumber) : Decidable v.InRange :=
  match v with
  | .nat n => inferInstanceAs (Decidable (n < 2 ^ 64))
  | .negInt n => inferInstanceAs (Decidable (-2 ^ 63 ≤ n ∧ n < 0))
  | .float f => inferInstanceAs (Decidable (f.isFinite = true))

end JsonNumber

/-! ## The law over exact values -/

namespace Lookup

/-- What a window count of exact value `x` reads as: a negative value is refused as negative, a
whole value up to `2 ^ 64` is taken, `2 ^ 64` itself as `2 ^ 64 - 1`, and any other value is
refused as not an integer. -/
def countOfValue (field : String) (x : ℚ) : Except QueryError Nat :=
  if x < 0 then .error (.negative field)
  else if (⌊x⌋₊ : ℚ) = x ∧ x ≤ 2 ^ 64 then .ok (min ⌊x⌋₊ (2 ^ 64 - 1))
  else .error (.notAnInteger field)

theorem countOfValue_of_neg (field : String) {x : ℚ} (hx : x < 0) :
    countOfValue field x = .error (.negative field) := by
  simp [countOfValue, hx]

/-- The quotient of `n` by `b` is the ratio `n / b` exactly when `b` divides `n`. -/
theorem natCast_div_eq_iff {n b : Nat} (hb : 0 < b) :
    ((n / b : Nat) : ℚ) = n / b ↔ b ∣ n := by
  have hb' : (b : ℚ) ≠ 0 := by exact_mod_cast hb.ne'
  constructor
  · intro h
    have hmul : ((n / b * b : Nat) : ℚ) = n := by
      rw [Nat.cast_mul, h, div_mul_cancel₀ _ hb']
    have hnat : b * (n / b) = n := by
      rw [Nat.mul_comm]
      exact_mod_cast hmul
    exact ⟨n / b, hnat.symm⟩
  · intro h
    exact Nat.cast_div h hb'

theorem div_le_two_pow_64_iff {n b : Nat} (hb : 0 < b) :
    (n : ℚ) / b ≤ 2 ^ 64 ↔ n ≤ 2 ^ 64 * b := by
  rw [div_le_iff₀ (by exact_mod_cast hb)]
  norm_cast

/-- The law at a ratio of natural numbers: a whole quotient up to `2 ^ 64` is taken, clamped. -/
theorem countOfValue_ratio (field : String) {n b : Nat} (hb : 0 < b) :
    countOfValue field (n / b) =
      if b ∣ n ∧ n ≤ 2 ^ 64 * b then .ok (min (n / b) (2 ^ 64 - 1))
      else .error (.notAnInteger field) := by
  have hnonneg : ¬ ((n : ℚ) / b < 0) := not_lt.mpr (by positivity)
  simp only [countOfValue, hnonneg, if_false, Nat.floor_div_eq_div, natCast_div_eq_iff hb,
    div_le_two_pow_64_iff hb]

/-- On a finite float the reader follows the law at the float's exact value. -/
theorem nonNegativeInteger_finite (field : String) (s : Bool) (m : Nat) (e : Int) :
    nonNegativeInteger field (.num (.float (.finite s m e))) =
      countOfValue field (Binary64.finite s m e).value := by
  by_cases hs : (s && (Binary64.magnitude m e).1 != 0) = true
  · rw [countOfValue_of_neg field ((Binary64.value_neg_iff s m e).mpr hs)]
    simp [nonNegativeInteger, (Binary64.lt_zero_iff s m e).mpr hs]
  · -- not negative: the value is the magnitude `n / b`, and each test is one on `n` and `b`
    have hs' : (s && (Binary64.magnitude m e).1 != 0) = false := by simpa using hs
    have hb : 0 < (Binary64.magnitude m e).2 := by
      rw [Binary64.magnitude_eq]
      exact Binary64.pow2_snd_pos e
    have hlt : (Binary64.finite s m e).lt (Binary64.zero false) = false := by
      cases h : (Binary64.finite s m e).lt (Binary64.zero false)
      · rfl
      · exact absurd ((Binary64.lt_zero_iff s m e).mp h) hs
    have hcond : ((Binary64.finite s m e).isInteger &&
        (Binary64.finite s m e).le (Binary64.ofNat (Nat.pow 2 64))) = true ↔
        (Binary64.magnitude m e).2 ∣ (Binary64.magnitude m e).1 ∧
          (Binary64.magnitude m e).1 ≤ 2 ^ 64 * (Binary64.magnitude m e).2 := by
      rw [Bool.and_eq_true, Binary64.isInteger_iff, Binary64.le_two_pow_64_iff s m e hs']
    rw [Binary64.value_of_not_neg s m e hs', countOfValue_ratio field hb]
    simp only [nonNegativeInteger, hlt, hcond, Binary64.toNatSat_of_not_neg s m e 64 hs',
      Nat.pow_eq, Bool.false_eq_true, if_false]

/-- **Reading a window count.** For every number the JSON reader yields, the reader follows
the law at its exact value `x`: a negative `x` is refused as negative; a whole `x` up to
`2 ^ 64` is taken as `x`, except that `2 ^ 64` itself is taken as `2 ^ 64 - 1`; any other `x`
is refused as not an integer. -/
theorem nonNegativeInteger_eq (field : String) (v : JsonNumber) (hv : v.InRange) :
    nonNegativeInteger field (.num v) = countOfValue field v.value := by
  cases v with
  | nat n =>
    have hn : n < 2 ^ 64 := hv
    have hcount := countOfValue_ratio field (n := n) (b := 1) Nat.one_pos
    simp only [Nat.cast_one, div_one, Nat.div_one, one_dvd, mul_one, true_and] at hcount
    rw [JsonNumber.value, hcount, if_pos hn.le, min_eq_left (by omega)]
    rfl
  | negInt n =>
    have hn : (n : ℚ) < 0 := by exact_mod_cast hv.2
    rw [JsonNumber.value, countOfValue_of_neg field hn]
    rfl
  | float f =>
    cases f with
    | infinite => simp [JsonNumber.InRange, Binary64.isFinite] at hv
    | nan => simp [JsonNumber.InRange, Binary64.isFinite] at hv
    | finite s m e => exact nonNegativeInteger_finite field s m e

/-- The float `2 ^ 64` is read as the count `2 ^ 64 - 1`: a value above every count the
integer branch takes, clamped where every other value is taken exactly. -/
theorem nonNegativeInteger_two_pow_64 :
    (JsonNumber.float (Binary64.ofNat (Nat.pow 2 64))).InRange ∧
      nonNegativeInteger "limit" (.num (.float (Binary64.ofNat (Nat.pow 2 64)))) =
        .ok (2 ^ 64 - 1) := by
  refine ⟨by decide, ?_⟩
  rw [nonNegativeInteger_eq "limit" _ (by decide)]
  have hval : (JsonNumber.float (Binary64.ofNat (Nat.pow 2 64))).value =
      ((2 ^ 64 : Nat) : ℚ) / (1 : Nat) := by
    rw [JsonNumber.value, Binary64.ofNat_two_pow_64]
    norm_num [Binary64.value, Nat.pow_eq]
  rw [hval, countOfValue_ratio "limit" Nat.one_pos]
  decide

end Lookup

end ShipSlap
