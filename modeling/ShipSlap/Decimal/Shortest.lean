import ShipSlap.Decimal.Binary64
/-!
The shortest decimal that reads back as a given binary64 value. The values that round to
`mant · 2 ^ exp` form an interval around it, half a unit in the last place on each side (a
quarter below at the bottom of a binade), with its ends included when `mant` is even. For
1, 2, …, 17 significant digits the two neighbours of the value on that decimal grid are tested:
the first grid with a neighbour inside the interval wins, and of two the nearer one (an exact
tie takes the upper). The result has no trailing zeros.
-/
namespace ShipSlap.Binary64

/-- `10 ^ k` as a fraction `(num, den)` of natural numbers, for an integer `k`. -/
def pow10 (k : Int) : Nat × Nat :=
  if 0 ≤ k then (Nat.pow 10 k.toNat, 1) else (1, Nat.pow 10 (-k).toNat)

/-- `⌊log₁₀ (num / den)⌋` for positive `num` and `den`, from `⌊log₂⌋` and one correction. -/
def floorLog10 (num den : Nat) : Int :=
  let e := floorLog2 num den * 1233 / 4096
  let (a, b) := pow10 (e + 1)
  if a * den ≤ num * b then e + 1 else e

/-- Removes trailing zeros: `(c, g)` and `(c / 10, g + 1)` stand for the same decimal. -/
def stripZeros (c : Nat) (g : Int) : Nat → Nat × Int
  | 0 => (c, g)
  | fuel + 1 => if c ≠ 0 ∧ c % 10 = 0 then stripZeros (c / 10) (g + 1) fuel else (c, g)

/-- The shortest decimal `(digits, exp10)`, meaning `digits · 10 ^ exp10`, that rounds to the
positive value `mant · 2 ^ exp`. -/
def shortest (mant : Nat) (exp : Int) : Nat × Int :=
  -- the interval, in units of 2 ^ (exp - 2)
  let v := 4 * mant
  let lo := if mant = Nat.pow 2 52 ∧ minExp < exp then v - 1 else v - 2
  let hi := v + 2
  let inclusive := mant % 2 = 0
  let (un, ud) := pow2 (exp - 2)
  let (vn, vd) := magnitude mant exp
  let top := floorLog10 vn vd
  -- candidate `c · 10 ^ g` against the interval, all scaled by `pd · ud`
  let scaled (c : Nat) (pn pd : Nat) : Nat × Nat × Nat × Nat :=
    (c * pn * ud, lo * un * pd, hi * un * pd, v * un * pd)
  let inside (c : Nat) (pn pd : Nat) : Bool :=
    let (x, l, h, _) := scaled c pn pd
    if inclusive then l ≤ x ∧ x ≤ h else l < x ∧ x < h
  let rec search : Nat → Nat → Nat × Int
    | 0, _ => (mant, exp)
    | fuel + 1, n =>
      let g := top - n + 1
      let (pn, pd) := pow10 g
      let c0 := (vn * pd) / (vd * pn)
      let c1 := c0 + 1
      let in0 := inside c0 pn pd
      let in1 := inside c1 pn pd
      if in0 ∧ in1 then
        let (x0, _, _, w) := scaled c0 pn pd
        let (x1, _, _, _) := scaled c1 pn pd
        stripZeros (if w - x0 < x1 - w then c0 else c1) g 20
      else if in0 then stripZeros c0 g 20
      else if in1 then stripZeros c1 g 20
      else search fuel (n + 1)
  search 17 1

end ShipSlap.Binary64
