import ShipSlap.Curve.Field
import ShipSlap.Bytes.Basic
/-!
Points of the secp256k1 curve `y ^ 2 = x ^ 3 + 7` over the field of `fieldPrime` elements, with
the chord-and-tangent group law in affine coordinates, scalar multiples by doubling and adding,
and the SEC 1 encodings: compressed (`02`/`03` and `x`), uncompressed (`04`, `x` and `y`) and
compact (`05` and `x`, standing for the point with even `y`). A decoded point lies on the curve
and has coordinates below the field prime.
-/
namespace ShipSlap.Secp256k1

/-- A point of the curve: the point at infinity or one with affine coordinates. -/
inductive Point where
  | infinity
  | affine (x y : Nat)
  deriving DecidableEq, Repr, Inhabited

namespace Point

/-- The base point of the curve. -/
def base : Point :=
  .affine 0x79be667ef9dcbbac55a06295ce870b07029bfcdb2dce28d959f2815b16f81798
    0x483ada7726a3c4655da4fbfc0e1108a8fd17b448a68554199c47d08ffb10d4b8

/-- Whether coordinates below the prime satisfy the curve equation. -/
def OnCurve (x y : Nat) : Prop :=
  x < fieldPrime ∧ y < fieldPrime ∧ y * y % fieldPrime = (x * x % fieldPrime * x + 7) % fieldPrime

instance (x y : Nat) : Decidable (OnCurve x y) := by
  unfold OnCurve; infer_instance

/-- The negative of a point: its reflection in the `x` axis. -/
def neg : Point → Point
  | .infinity => .infinity
  | .affine x y => .affine x ((fieldPrime - y) % fieldPrime)

/-- Twice a point, along the tangent. -/
def double : Point → Point
  | .infinity => .infinity
  | .affine x y =>
    if y = 0 then .infinity
    else
      let p := fieldPrime
      let l := 3 * (x * x % p) % p * invMod p (2 * y % p) % p
      let x3 := subMod p (l * l % p) (2 * x % p)
      let y3 := subMod p (l * subMod p x x3 % p) y
      .affine x3 y3

/-- The sum of two points, along the chord. -/
def add : Point → Point → Point
  | .infinity, q => q
  | q, .infinity => q
  | .affine x1 y1, .affine x2 y2 =>
    let p := fieldPrime
    if x1 = x2 then
      if y1 = y2 then double (.affine x1 y1) else .infinity
    else
      let l := subMod p y2 y1 * invMod p (subMod p x2 x1) % p
      let x3 := subMod p (subMod p (l * l % p) x1) x2
      let y3 := subMod p (l * subMod p x1 x3 % p) y1
      .affine x3 y3

/-- The binary digits of a number, least significant first. -/
def bits (k : Nat) : List Bool :=
  if h : k = 0 then [] else (k % 2 = 1) :: bits (k / 2)
termination_by k
decreasing_by exact Nat.div_lt_self (Nat.pos_of_ne_zero h) (by decide)

/-- `k` times a point, by doubling and adding over the binary digits of `k`, most significant
first. -/
def smul (k : Nat) (pt : Point) : Point :=
  (bits k).reverse.foldl (fun acc b => if b then add (double acc) pt else double acc) .infinity

/-- A square root of `c` modulo the field prime, if `c` is a square: since the prime is `3` modulo
`4`, `c ^ ((p + 1) / 4)` is a root whenever one exists. -/
def sqrt? (c : Nat) : Option Nat :=
  let r := powMod fieldPrime c ((fieldPrime + 1) / 4)
  if r * r % fieldPrime = c % fieldPrime then some r else none

/-- The point with abscissa `x` and a `y` of the given parity, if there is one. -/
def lift? (x : Nat) (odd : Bool) : Option Point :=
  if x < fieldPrime then
    match sqrt? ((x * x % fieldPrime * x + 7) % fieldPrime) with
    | some y =>
      let y' := if (y % 2 = 1) = odd then y else (fieldPrime - y) % fieldPrime
      some (.affine x y')
    | none => none
  else none

/-- The 33-byte compressed encoding: the parity of `y` as `02` or `03`, then `x`. The point at
infinity is the single byte `00`. -/
def toCompressed : Point → Bytes
  | .infinity => [0]
  | .affine x y => (if y % 2 = 1 then 3 else 2) :: Bytes.ofNat 32 x

/-- Reads a point in one of the SEC 1 encodings; the point at infinity is the byte `00`. -/
def ofBytes? (bs : Bytes) : Option Point :=
  match bs with
  | [0] => some .infinity
  | tag :: rest =>
    if (tag = 2 ∨ tag = 3) ∧ rest.length = 32 then lift? (Bytes.toNat rest) (tag = 3)
    else if tag = 5 ∧ rest.length = 32 then lift? (Bytes.toNat rest) false
    else if tag = 4 ∧ rest.length = 64 then
      let x := Bytes.toNat (rest.take 32)
      let y := Bytes.toNat (rest.drop 32)
      if OnCurve x y then some (.affine x y) else none
    else none
  | [] => none

end Point

end ShipSlap.Secp256k1
