/-!
IEEE 754 binary64 numbers, computed exactly on natural numbers. A finite value is
`± mant · 2 ^ exp` in canonical form: either normal (`2 ^ 52 ≤ mant < 2 ^ 53`,
`-1074 ≤ exp ≤ 971`) or subnormal and zero (`mant < 2 ^ 52`, `exp = -1074`). Rounding of a
positive rational `num / den` goes to the nearest such value, ties to the even mantissa, and
overflows to infinity at `2 ^ 1024`. Arithmetic and comparison are done on the exact values, so
every law here is a law of rationals.
-/
namespace ShipSlap

/-- A binary64 value: finite with sign, mantissa and exponent, infinite with a sign, or NaN. -/
inductive Binary64 where
  | finite (negative : Bool) (mant : Nat) (exp : Int)
  | infinite (negative : Bool)
  | nan
  deriving Repr, DecidableEq, Inhabited

namespace Binary64

/-- The least exponent, that of the subnormals. -/
def minExp : Int := -1074

/-- The greatest exponent of a finite value. -/
def maxExp : Int := 971

/-- `2 ^ k` as a fraction `(num, den)` of natural numbers, for an integer `k`. -/
def pow2 (k : Int) : Nat × Nat :=
  if 0 ≤ k then (Nat.pow 2 k.toNat, 1) else (1, Nat.pow 2 (-k).toNat)

/-- `⌊log₂ (num / den)⌋` for positive `num` and `den`. -/
def floorLog2 (num den : Nat) : Int :=
  let t : Int := (Nat.log2 num : Int) - Nat.log2 den
  let (a, b) := pow2 t
  if num * b < den * a then t - 1 else t

/-- `num / den` rounded to the nearest natural number, ties to even. -/
def roundDiv (num den : Nat) : Nat :=
  let q := num / den
  let r := num % den
  if 2 * r > den ∨ (2 * r = den ∧ q % 2 = 1) then q + 1 else q

/-- The nearest value to the positive rational `num / den` with the given sign. -/
def ofRatio (negative : Bool) (num den : Nat) : Binary64 :=
  if num = 0 ∨ den = 0 then .finite negative 0 minExp
  else
    let e := max minExp (floorLog2 num den - 52)
    let (a, b) := pow2 (-e)
    let q := roundDiv (num * a) (den * b)
    let (q, e) := if q = Nat.pow 2 53 then (Nat.pow 2 52, e + 1) else (q, e)
    if maxExp < e then .infinite negative else .finite negative q e

/-- The nearest value to `digits · 10 ^ exp10`. Exponents far beyond the range are settled
without computing the power: the value is infinite or zero there. -/
def ofDecimal (negative : Bool) (digits : Nat) (exp10 : Int) : Binary64 :=
  let width : Int := (toString digits).length
  if digits = 0 then .finite negative 0 minExp
  else if 310 < exp10 + width then .infinite negative
  else if exp10 + width < -330 then .finite negative 0 minExp
  else if 0 ≤ exp10 then ofRatio negative (digits * Nat.pow 10 exp10.toNat) 1
  else ofRatio negative digits (Nat.pow 10 (-exp10).toNat)

/-- The nearest value to a natural number. -/
def ofNat (n : Nat) : Binary64 :=
  ofRatio false n 1

/-- Zero with the given sign. -/
def zero (negative : Bool) : Binary64 :=
  .finite negative 0 minExp

/-- The absolute value of a finite value as a fraction `(num, den)`. -/
def magnitude (mant : Nat) (exp : Int) : Nat × Nat :=
  let (a, b) := pow2 exp
  (mant * a, b)

/-- Whether the value is neither infinite nor NaN. -/
def isFinite : Binary64 → Bool
  | .finite .. => true
  | _ => false

/-- Whether the value is NaN. -/
def isNan : Binary64 → Bool
  | .nan => true
  | _ => false

/-- Whether the value is a finite integer. -/
def isInteger : Binary64 → Bool
  | .finite _ mant exp => 0 ≤ exp || mant % Nat.pow 2 (-exp).toNat = 0
  | _ => false

/-- The negated value. -/
def neg : Binary64 → Binary64
  | .finite s m e => .finite (!s) m e
  | .infinite s => .infinite (!s)
  | .nan => .nan

/-- The sign and exact value of a finite number as a fraction, zero counted as non-negative. -/
def signedRatio (negative : Bool) (mant : Nat) (exp : Int) : Bool × Nat × Nat :=
  let (n, d) := magnitude mant exp
  (negative && n != 0, n, d)

/-- The order of two values (NaN compares with nothing, and signed zeros are equal). -/
def compare? : Binary64 → Binary64 → Option Ordering
  | .nan, _ => none
  | _, .nan => none
  | .infinite s, .infinite t => some (if s = t then .eq else if s then .lt else .gt)
  | .infinite s, .finite .. => some (if s then .lt else .gt)
  | .finite .., .infinite t => some (if t then .gt else .lt)
  | .finite s m e, .finite t n f =>
    let (s', a, b) := signedRatio s m e
    let (t', c, d) := signedRatio t n f
    if s' && !t' then some .lt
    else if !s' && t' then some .gt
    else
      let o := Ord.compare (a * d) (c * b)
      some (if s' then o.swap else o)

/-- `x < y`, false when either is NaN. -/
def lt (x y : Binary64) : Bool := compare? x y == some .lt

/-- `x ≤ y`, false when either is NaN. -/
def le (x y : Binary64) : Bool := compare? x y == some .lt || compare? x y == some .eq

/-- The product, rounded. -/
def mul : Binary64 → Binary64 → Binary64
  | .nan, _ => .nan
  | _, .nan => .nan
  | .infinite s, .infinite t => .infinite (s != t)
  | .infinite s, .finite t m _ => if m = 0 then .nan else .infinite (s != t)
  | .finite s m _, .infinite t => if m = 0 then .nan else .infinite (s != t)
  | .finite s m e, .finite t n f =>
    let (a, b) := magnitude m e
    let (c, d) := magnitude n f
    ofRatio (s != t) (a * c) (b * d)

/-- The quotient, rounded. -/
def div : Binary64 → Binary64 → Binary64
  | .nan, _ => .nan
  | _, .nan => .nan
  | .infinite _, .infinite _ => .nan
  | .infinite s, .finite t _ _ => .infinite (s != t)
  | .finite s _ _, .infinite t => zero (s != t)
  | .finite s m e, .finite t n f =>
    if n = 0 then (if m = 0 then .nan else .infinite (s != t))
    else
      let (a, b) := magnitude m e
      let (c, d) := magnitude n f
      ofRatio (s != t) (a * d) (b * c)

/-- Conversion to an unsigned integer of `bits` bits: toward zero, saturating at both ends,
NaN to zero. -/
def toNatSat (bits : Nat) : Binary64 → Nat
  | .nan => 0
  | .infinite s => if s then 0 else Nat.pow 2 bits - 1
  | .finite s m e =>
    if s then 0
    else
      let (a, b) := magnitude m e
      min (a / b) (Nat.pow 2 bits - 1)

end Binary64

end ShipSlap
