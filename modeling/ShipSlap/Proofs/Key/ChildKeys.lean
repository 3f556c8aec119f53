import Mathlib
import ShipSlap.Key.Wallet
import ShipSlap.Proofs.Curve.BasePoint
/-!
The two sides of a child key agree. A wallet over the root key `a` derives its own child key for
a counterparty `B = b G` as the scalar `a + t`, where `t` hashes the shared point `a B`; the
counterparty, holding `b`, derives the same child public key as `A + t' G`, where `A = a G` and
`t'` hashes `b A`. Main statement: `getPublicKey_counterparties_agree`, the two answers are
equal (both the same key, or both the failure of the derivation) for every pair of root keys
and every context, with the counterparty named directly, as everybody (the key of scalar one),
or as the wallet itself.

The proof rests on the group law of secp256k1 (`ShipSlap.Proofs.Curve.Group`): `a (b G) =
b (a G)` makes the shared secrets, hence the tweaks, equal; `a G + t G = ((a + t) mod n) G`
makes the points equal; and `k G` is the point at infinity only for `n ∣ k`, so the private
side fails (a zero scalar) exactly when the public side does (the point at infinity).
-/
namespace ShipSlap

open Secp256k1

/-- Both holders of a pair of root keys hash the same shared secret. -/
theorem PrivateKey.sharedSecret_comm (a b : PrivateKey) :
    a.sharedSecret b.publicKey = b.sharedSecret a.publicKey := by
  rw [PrivateKey.sharedSecret, PrivateKey.sharedSecret, PrivateKey.publicKey,
    PrivateKey.publicKey, Point.smul_smul_comm]

/-- The private child key's public key is the public child key: a scalar `a + t` that is zero
modulo `n` is the point at infinity `a G + t G`, and any other gives the same point. -/
theorem PrivateKey.deriveChild_map_publicKey (a : PrivateKey) (other : PublicKey) {b : PrivateKey}
    (hsecret : a.sharedSecret other = b.sharedSecret a.publicKey) (invoice : String) :
    (a.deriveChild other invoice).map PrivateKey.publicKey =
      a.publicKey.deriveChild b invoice := by
  unfold PrivateKey.deriveChild PublicKey.deriveChild
  dsimp only
  rw [← hsecret, PrivateKey.publicKey, Point.add_smul_base]
  split
  · -- a scalar in `[1, n)`: the multiple is an affine point
    rename_i hpos
    have hne : Point.smul ((a.scalar + invoiceTweak (a.sharedSecret other) invoice) % groupOrder)
        Point.base ≠ .infinity := by
      rw [Ne, Point.smul_base_eq_infinity_iff, Nat.mod_mod]
      exact Nat.pos_iff_ne_zero.mp hpos
    split
    · rename_i h
      exact absurd h hne
    · rfl
  · -- the zero scalar: the point at infinity
    rename_i hzero
    rw [Nat.eq_zero_of_not_pos hzero, Point.smul_zero]
    rfl

/-- The invoice number does not depend on the counterparty. -/
theorem DerivationContext.invoiceNumber_withCounterparty (ctx : DerivationContext)
    (c : Counterparty) : (ctx.withCounterparty c).invoiceNumber = ctx.invoiceNumber :=
  rfl

/-- A wallet over `a` whose counterparty is the key of `b`, and a wallet over `b` whose
counterparty is the key of `a`, answer the same child public key: the first its own, the second
its counterparty's. -/
theorem getPublicKey_self_eq_other (a b : PrivateKey) (ctx : DerivationContext)
    {c c' : Counterparty} (hc : (ProtoWallet.mk a).counterpartyKey c = b.publicKey)
    (hc' : (ProtoWallet.mk b).counterpartyKey c' = a.publicKey) :
    (ProtoWallet.mk a).getPublicKey (ctx.withCounterparty c) true =
      (ProtoWallet.mk b).getPublicKey (ctx.withCounterparty c') false := by
  unfold ProtoWallet.getPublicKey ProtoWallet.derivePrivate
  simp only [if_true, Bool.false_eq_true, if_false,
    DerivationContext.invoiceNumber_withCounterparty]
  cases ctx.invoiceNumber with
  | error e => rfl
  | ok invoice =>
    show ((a.deriveChild ((ProtoWallet.mk a).counterpartyKey c) invoice).map
        PrivateKey.publicKey).mapError WalletError.crypto =
      (((ProtoWallet.mk b).counterpartyKey c').deriveChild b invoice).mapError WalletError.crypto
    rw [hc, hc', PrivateKey.deriveChild_map_publicKey a _ (PrivateKey.sharedSecret_comm a b)]

/-- With a valid invoice, a wallet's own child public key is a key or the failure of the
derivation. -/
theorem getPublicKey_self_ok_or_failed (w : ProtoWallet) {ctx : DerivationContext}
    {invoice : String} (hinv : ctx.invoiceNumber = .ok invoice) :
    (∃ k, w.getPublicKey ctx true = .ok k) ∨
      w.getPublicKey ctx true = .error (.crypto .derivationFailed) := by
  unfold ProtoWallet.getPublicKey ProtoWallet.derivePrivate
  simp only [if_true, hinv, bind, Except.bind]
  unfold PrivateKey.deriveChild
  dsimp only
  split
  · exact .inl ⟨_, rfl⟩
  · exact .inr rfl

/-- Two answers for one child public key agree: they are equal, and each is a key or the failure
of the derivation. -/
def ChildKeyAnswersAgree (mine theirs : Except WalletError PublicKey) : Prop :=
  mine = theirs ∧ ((∃ k, mine = .ok k) ∨ mine = .error (.crypto .derivationFailed))

/-- **Both sides of a child key agree**, for every pair of root keys `a` and `b` and every
context with a valid invoice number: `a`'s own child key with `b` is `b`'s view of `a`'s child
key; `a`'s own child key with everybody is everybody's view of it; and `a`'s own child key with
itself is its own view of it. -/
theorem getPublicKey_counterparties_agree (a b : PrivateKey) (ctx : DerivationContext)
    (hinv : ∃ invoice, ctx.invoiceNumber = .ok invoice) :
    ChildKeyAnswersAgree
        ((ProtoWallet.mk a).getPublicKey (ctx.withCounterparty (.other b.publicKey)) true)
        ((ProtoWallet.mk b).getPublicKey (ctx.withCounterparty (.other a.publicKey)) false) ∧
      ChildKeyAnswersAgree
        ((ProtoWallet.mk a).getPublicKey (ctx.withCounterparty .anyone) true)
        (ProtoWallet.anyone.getPublicKey (ctx.withCounterparty (.other a.publicKey)) false) ∧
      ChildKeyAnswersAgree
        ((ProtoWallet.mk a).getPublicKey (ctx.withCounterparty .self) true)
        ((ProtoWallet.mk a).getPublicKey (ctx.withCounterparty (.other a.publicKey)) false) := by
  obtain ⟨invoice, hinv⟩ := hinv
  have hshape := fun c => getPublicKey_self_ok_or_failed (ProtoWallet.mk a)
    (show (ctx.withCounterparty c).invoiceNumber = .ok invoice from hinv)
  -- everybody is the wallet of scalar one, and the wallet itself is the key `a`
  exact ⟨⟨getPublicKey_self_eq_other a b ctx rfl rfl, hshape _⟩,
    ⟨getPublicKey_self_eq_other a PrivateKey.anyone ctx rfl rfl, hshape _⟩,
    ⟨getPublicKey_self_eq_other a a ctx rfl rfl, hshape _⟩⟩

/-- The context of the first key of the service host interconnect protocol at the level of one
key per counterparty. -/
def hostInterconnectContext : DerivationContext :=
  ⟨⟨.everyAppAndCounterparty, "service host interconnect"⟩, "1", .anyone⟩

theorem getPublicKey_counterparties_agree_two_three :
    (∃ invoice, hostInterconnectContext.invoiceNumber = .ok invoice) ∧
      ChildKeyAnswersAgree
          ((ProtoWallet.mk ⟨2, by decide⟩).getPublicKey
            (hostInterconnectContext.withCounterparty
              (.other (PrivateKey.mk 3 (by decide)).publicKey))
            true)
          ((ProtoWallet.mk ⟨3, by decide⟩).getPublicKey
            (hostInterconnectContext.withCounterparty
              (.other (PrivateKey.mk 2 (by decide)).publicKey))
            false) ∧
        ChildKeyAnswersAgree
          ((ProtoWallet.mk ⟨2, by decide⟩).getPublicKey
            (hostInterconnectContext.withCounterparty .anyone) true)
          (ProtoWallet.anyone.getPublicKey
            (hostInterconnectContext.withCounterparty
              (.other (PrivateKey.mk 2 (by decide)).publicKey))
            false) ∧
        ChildKeyAnswersAgree
          ((ProtoWallet.mk ⟨2, by decide⟩).getPublicKey
            (hostInterconnectContext.withCounterparty .self) true)
          ((ProtoWallet.mk ⟨2, by decide⟩).getPublicKey
            (hostInterconnectContext.withCounterparty
              (.other (PrivateKey.mk 2 (by decide)).publicKey))
            false) :=
  have hinv : ∃ invoice, hostInterconnectContext.invoiceNumber = .ok invoice :=
    ⟨"2-service host interconnect-1", by decide +kernel⟩
  ⟨hinv, getPublicKey_counterparties_agree ⟨2, by decide⟩ ⟨3, by decide⟩ _ hinv⟩

end ShipSlap
