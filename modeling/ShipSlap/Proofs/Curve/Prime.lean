import Mathlib
import ShipSlap.Curve.Field
/-!
The two moduli of secp256k1 are prime: the prime `p` of the coordinate field and the order `n`
of the base point. Their primality is what makes the coordinates a field, Fermat's inverse
`invMod` an inverse, and every nonzero scalar below `n` invertible.

1. `powMod_eq`: square-and-multiply computes `b ^ e % m`, so Fermat's `invMod` inverts modulo a
   prime (`cast_invMod_of_prime`).
2. `prime_of_mem_certified`: a number that a checked Pratt certificate lists is prime. An entry
   gives Lucas's witness `a` and the factors of the number less one; the check asks that
   `a ^ (q - 1) ≡ 1` and `a ^ ((q - 1) / f) ≢ 1` for each factor `f`, every factor listed
   before.
3. `fieldPrime_prime`, `groupOrder_prime`: the certificate below lists both; it was found by
   factoring each `q - 1` down to the small primes, and the kernel checks it by running
   `powMod`.
-/
namespace ShipSlap.Secp256k1

/-- Square-and-multiply computes the power. -/
theorem powMod_eq (m b e : Nat) : powMod m b e = b ^ e % m := by
  fun_induction powMod m b e with
  | case1 b => rw [Nat.pow_zero]
  | case2 b e he r hodd ih =>
    -- `r` is the power of the square, `powMod m (b * b % m) (e / 2)`
    simp only [r]
    rw [ih, ← Nat.pow_mod, ← Nat.mul_mod, ← Nat.pow_two, ← Nat.pow_mul, ← Nat.pow_succ,
      show (2 * (e / 2)).succ = e by omega]
  | case3 b e he r heven ih =>
    simp only [r]
    rw [ih, ← Nat.pow_mod, ← Nat.pow_two, ← Nat.pow_mul, show 2 * (e / 2) = e by omega]

/-- Fermat's inverse is the inverse modulo a prime above two, and zero at zero. -/
theorem cast_invMod_of_prime {m : Nat} [Fact m.Prime] (hm : 2 < m) (a : Nat) :
    ((invMod m a : Nat) : ZMod m) = (a : ZMod m)⁻¹ := by
  rw [invMod, powMod_eq, ZMod.natCast_mod, Nat.cast_pow]
  by_cases ha : (a : ZMod m) = 0
  · rw [ha, inv_zero, zero_pow (by omega)]
  · refine eq_inv_of_mul_eq_one_left ?_
    rw [← pow_succ, show m - 2 + 1 = m - 1 by omega]
    exact ZMod.pow_card_sub_one_eq_one ha

/-- One entry of a Pratt certificate: the number `q`, Lucas's witness `a`, and the factors of
`q - 1` with their exponents. -/
structure PrattEntry where
  q : Nat
  a : Nat
  factors : List (Nat × Nat)

/-- Lucas's test for one entry, given the numbers certified before it: the factors are among
them and multiply to `q - 1`, `a ^ (q - 1) ≡ 1`, and `a ^ ((q - 1) / f) ≢ 1` for each factor. -/
def PrattEntry.check (certified : List Nat) (e : PrattEntry) : Bool :=
  2 ≤ e.q && e.factors.all (fun f => f.1 ∈ certified) &&
    (e.factors.map fun f => f.1 ^ f.2).prod == e.q - 1 &&
    powMod e.q e.a (e.q - 1) == 1 &&
    e.factors.all (fun f => powMod e.q e.a ((e.q - 1) / f.1) != 1)

/-- A certificate's entries in order, each checked against those before it. -/
def checkCertificate : List Nat → List PrattEntry → Bool
  | _, [] => true
  | certified, e :: es => e.check certified && checkCertificate (e.q :: certified) es

/-- Powers in `ZMod q` are `powMod` on representatives. -/
theorem zmod_pow_eq_one_iff {q : Nat} (hq : 2 ≤ q) (a e : Nat) :
    (a : ZMod q) ^ e = 1 ↔ powMod q a e = 1 := by
  rw [powMod_eq, ← Nat.cast_pow, ← Nat.cast_one, ZMod.natCast_eq_natCast_iff',
    Nat.one_mod_eq_one.mpr (by omega)]

/-- An entry that passes Lucas's test, with its factors prime, is prime. -/
theorem PrattEntry.prime_of_check {certified : List Nat} {e : PrattEntry}
    (hcertified : ∀ q ∈ certified, q.Prime) (h : e.check certified = true) : e.q.Prime := by
  simp only [PrattEntry.check, Bool.and_eq_true, decide_eq_true_eq, List.all_eq_true, beq_iff_eq,
    bne_iff_ne, ne_eq] at h
  obtain ⟨⟨⟨⟨h2, hfactors⟩, hprod⟩, hfull⟩, hpart⟩ := h
  refine lucas_primality e.q (e.a : ZMod e.q) ((zmod_pow_eq_one_iff h2 _ _).mpr hfull) ?_
  intro f hf hdvd
  -- a prime dividing the product of prime powers is one of the listed factors
  rw [← hprod] at hdvd
  obtain ⟨x, hx, hfx⟩ := (Prime.dvd_prod_iff hf.prime).mp hdvd
  obtain ⟨g, hg, rfl⟩ := List.mem_map.mp hx
  have hg1 : g.1.Prime := hcertified _ (hfactors g hg)
  obtain rfl : f = g.1 := (Nat.prime_dvd_prime_iff_eq hf hg1).mp (hf.dvd_of_dvd_pow hfx)
  rw [ne_eq, zmod_pow_eq_one_iff h2]
  exact hpart g hg

/-- Every number a checked certificate lists is prime. -/
theorem prime_of_checkCertificate {certified : List Nat} {es : List PrattEntry}
    (hcertified : ∀ q ∈ certified, q.Prime) (h : checkCertificate certified es = true) :
    ∀ e ∈ es, e.q.Prime := by
  induction es generalizing certified with
  | nil => simp
  | cons e es ih =>
    simp only [checkCertificate, Bool.and_eq_true] at h
    have he := PrattEntry.prime_of_check hcertified h.1
    intro e' he'
    rcases List.mem_cons.mp he' with rfl | he'
    · exact he
    · exact ih (fun q hq => (List.mem_cons.mp hq).elim (· ▸ he) (hcertified q)) h.2 e' he'

/-- A Pratt certificate for both moduli of secp256k1: every entry comes after the entries of the
primes dividing its number less one, down to `2`; the group order is the last entry. -/
def curveCertificate : List PrattEntry := [
  ⟨2, 3, []⟩,
  ⟨3, 2, [(2, 1)]⟩,
  ⟨7, 3, [(2, 1), (3, 1)]⟩,
  ⟨5, 2, [(2, 2)]⟩,
  ⟨13441, 11, [(2, 7), (3, 1), (5, 1), (7, 1)]⟩,
  ⟨29, 2, [(2, 2), (7, 1)]⟩,
  ⟨31, 3, [(2, 1), (3, 1), (5, 1)]⟩,
  ⟨11, 2, [(2, 1), (5, 1)]⟩,
  ⟨13, 2, [(2, 2), (3, 1)]⟩,
  ⟨7723, 3, [(2, 1), (3, 3), (11, 1), (13, 1)]⟩,
  ⟨17, 3, [(2, 4)]⟩,
  ⟨443, 2, [(2, 1), (13, 1), (17, 1)]⟩,
  ⟨887, 5, [(2, 1), (443, 1)]⟩,
  ⟨5323, 5, [(2, 1), (3, 1), (887, 1)]⟩,
  ⟨131, 2, [(2, 1), (5, 1), (13, 1)]⟩,
  ⟨2621, 2, [(2, 2), (5, 1), (131, 1)]⟩,
  ⟨24809, 6, [(2, 3), (7, 1), (443, 1)]⟩,
  ⟨97, 5, [(2, 5), (3, 1)]⟩,
  ⟨971, 6, [(2, 1), (5, 1), (97, 1)]⟩,
  ⟨1373, 2, [(2, 2), (7, 3)]⟩,
  ⟨13331831, 13, [(2, 1), (5, 1), (971, 1), (1373, 1)]⟩,
  ⟨173378833005251801, 6, [(2, 3), (5, 2), (2621, 1), (24809, 1), (13331831, 1)]⟩,
  ⟨22149492674086928081353, 5, [(2, 3), (3, 1), (5323, 1), (173378833005251801, 1)]⟩,
  ⟨132896956044521568488119, 6, [(2, 1), (3, 1), (22149492674086928081353, 1)]⟩,
  ⟨271, 6, [(2, 1), (3, 3), (5, 1)]⟩,
  ⟨1627, 3, [(2, 1), (3, 1), (271, 1)]⟩,
  ⟨41, 6, [(2, 3), (5, 1)]⟩,
  ⟨83, 2, [(2, 1), (41, 1)]⟩,
  ⟨2657, 3, [(2, 5), (83, 1)]⟩,
  ⟨67, 2, [(2, 1), (3, 1), (11, 1)]⟩,
  ⟨4423, 3, [(2, 1), (3, 1), (11, 1), (67, 1)]⟩,
  ⟨103, 5, [(2, 1), (3, 1), (17, 1)]⟩,
  ⟨41201, 3, [(2, 4), (5, 2), (103, 1)]⟩,
  ⟨101, 2, [(2, 2), (5, 2)]⟩,
  ⟨239, 7, [(2, 1), (7, 1), (17, 1)]⟩,
  ⟨96557, 2, [(2, 2), (101, 1), (239, 1)]⟩,
  ⟨19, 2, [(2, 1), (3, 2)]⟩,
  ⟨419, 2, [(2, 1), (11, 1), (19, 1)]⟩,
  ⟨20113, 10, [(2, 4), (3, 1), (419, 1)]⟩,
  ⟨1206781, 10, [(2, 2), (3, 1), (5, 1), (20113, 1)]⟩,
  ⟨7240687, 3, [(2, 1), (3, 1), (1206781, 1)]⟩,
  ⟨53, 2, [(2, 2), (13, 1)]⟩,
  ⟨107590001, 3, [(2, 4), (5, 4), (7, 1), (29, 1), (53, 1)]⟩,
  ⟨255515944373312847190720520512484175977, 3,
    [(2, 3), (7, 2), (11, 1), (1627, 1), (2657, 1), (4423, 1), (41201, 1), (96557, 1),
      (7240687, 1), (107590001, 1)]⟩,
  ⟨205115282021455665897114700593932402728804164701536103180137503955397371, 10,
    [(2, 1), (3, 1), (5, 1), (29, 2), (31, 1), (7723, 1), (132896956044521568488119, 1),
      (255515944373312847190720520512484175977, 1)]⟩,
  ⟨115792089237316195423570985008687907853269984665640564039457584007908834671663, 3,
    [(2, 1), (3, 1), (7, 1), (13441, 1),
      (205115282021455665897114700593932402728804164701536103180137503955397371, 1)]⟩,
  ⟨37, 2, [(2, 2), (3, 2)]⟩,
  ⟨149, 2, [(2, 2), (37, 1)]⟩,
  ⟨631, 3, [(2, 1), (3, 2), (5, 1), (7, 1)]⟩,
  ⟨23, 5, [(2, 1), (11, 1)]⟩,
  ⟨16699, 3, [(2, 1), (3, 1), (11, 2), (23, 1)]⟩,
  ⟨2861, 2, [(2, 2), (5, 1), (11, 1), (13, 1)]⟩,
  ⟨85831, 3, [(2, 1), (3, 1), (5, 1), (2861, 1)]⟩,
  ⟨2011, 3, [(2, 1), (3, 1), (5, 1), (67, 1)]⟩,
  ⟨4681609, 23, [(2, 3), (3, 1), (97, 1), (2011, 1)]⟩,
  ⟨107361793816595537, 3, [(2, 4), (16699, 1), (85831, 1), (4681609, 1)]⟩,
  ⟨59, 2, [(2, 1), (29, 1)]⟩,
  ⟨4051, 10, [(2, 1), (3, 4), (5, 2)]⟩,
  ⟨113, 3, [(2, 4), (7, 1)]⟩,
  ⟨120233, 3, [(2, 3), (7, 1), (19, 1), (113, 1)]⟩,
  ⟨199, 3, [(2, 1), (3, 2), (11, 1)]⟩,
  ⟨797, 2, [(2, 2), (199, 1)]⟩,
  ⟨9349, 2, [(2, 2), (3, 1), (19, 1), (41, 1)]⟩,
  ⟨44706919, 6, [(2, 1), (3, 1), (797, 1), (9349, 1)]⟩,
  ⟨174723607534414371449, 3, [(2, 3), (17, 1), (59, 1), (4051, 1), (120233, 1), (44706919, 1)]⟩,
  ⟨109, 6, [(2, 2), (3, 3)]⟩,
  ⟨73, 5, [(2, 3), (3, 2)]⟩,
  ⟨293, 2, [(2, 2), (73, 1)]⟩,
  ⟨2731, 3, [(2, 1), (3, 1), (5, 1), (7, 1), (13, 1)]⟩,
  ⟨305873, 3, [(2, 4), (7, 1), (2731, 1)]⟩,
  ⟨1409, 3, [(2, 7), (11, 1)]⟩,
  ⟨28181, 2, [(2, 2), (5, 1), (1409, 1)]⟩,
  ⟨545358713, 5, [(2, 3), (41, 1), (59, 1), (28181, 1)]⟩,
  ⟨461, 2, [(2, 2), (5, 1), (23, 1)]⟩,
  ⟨1871, 14, [(2, 1), (5, 1), (11, 1), (17, 1)]⟩,
  ⟨1627771, 3, [(2, 1), (3, 1), (5, 1), (29, 1), (1871, 1)]⟩,
  ⟨297159362677, 2, [(2, 2), (3, 2), (11, 1), (461, 1), (1627771, 1)]⟩,
  ⟨29047611873442575647497758179, 2,
    [(2, 1), (293, 1), (305873, 1), (545358713, 1), (297159362677, 1)]⟩,
  ⟨341948486974166000522343609283189, 2,
    [(2, 2), (3, 3), (109, 1), (29047611873442575647497758179, 1)]⟩,
  ⟨115792089237316195423570985008687907852837564279074904382605163141518161494337, 7,
    [(2, 6), (3, 1), (149, 1), (631, 1), (107361793816595537, 1), (174723607534414371449, 1),
      (341948486974166000522343609283189, 1)]⟩]

theorem checkCertificate_curveCertificate : checkCertificate [] curveCertificate = true := by
  decide +kernel

/-- A number the curve certificate lists is prime. -/
theorem prime_of_mem_curveCertificate {q : Nat} (h : q ∈ curveCertificate.map PrattEntry.q) :
    q.Prime := by
  obtain ⟨e, he, rfl⟩ := List.mem_map.mp h
  exact prime_of_checkCertificate (by simp) checkCertificate_curveCertificate e he

theorem fieldPrime_prime : fieldPrime.Prime :=
  prime_of_mem_curveCertificate (by decide)

theorem groupOrder_prime : groupOrder.Prime :=
  prime_of_mem_curveCertificate (by decide)

end ShipSlap.Secp256k1
