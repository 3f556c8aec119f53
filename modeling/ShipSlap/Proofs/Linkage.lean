import Mathlib
import ShipSlap.Linkage
import ShipSlap.Proofs.Curve.Signature
import ShipSlap.Proofs.Key.Encoding
/-!
Signing an advertisement against checking its linkage. Main statement:
`verifyLinkage_signToken`, everybody finds the token a wallet signs for its own identity linked
to that identity.

The signer signs with its own linkage key towards everybody, the scalar `a + t` of its root
scalar `a` and the linkage tweak `t`, and locks the token to that key. The checker knows only
the identity `a G`; it derives the point `a G + t G`, and the two meet because both sides hash
the same shared point (`a` times everybody's point `G` is everybody's scalar `1` times `a G`)
under the same invoice number. What this rests on of secp256k1 is proved of the curve: keys
read back from their encodings (`PrivateKey.ofBytes_publicKey_toBytes`), multiples of the base
point add (`Point.add_smul_base`), and signatures verify (`PrivateKey.verify_sign`). The last
holds of a signature whose scalars are nonzero (`AdvertisementSignatureInRange`): ECDSA has no
signature with a zero scalar, and signing fails rather than return one.
-/
namespace ShipSlap

open Secp256k1

/-- The multiple `1 P` is `P`. -/
theorem Secp256k1.Point.smul_one (pt : Point) : Point.smul 1 pt = pt := by
  have hbits : Point.bits 1 = [true] := by
    rw [Point.bits_of_ne_zero one_ne_zero, show 1 / 2 = 0 from rfl, Point.bits_zero]
    rfl
  rw [Point.smul_eq, hbits]
  cases pt <;> rfl

/-- Everybody's public key is the base point. -/
theorem PrivateKey.publicKey_anyone : PrivateKey.anyone.publicKey = ⟨Point.base⟩ := by
  rw [PrivateKey.publicKey, PrivateKey.anyone, Point.smul_one]

/-- Towards everybody, the shared secret is the wallet's own public key. -/
theorem PrivateKey.sharedSecret_anyone (a : PrivateKey) :
    a.sharedSecret PrivateKey.anyone.publicKey = a.publicKey.toBytes := by
  rw [PrivateKey.publicKey_anyone]
  rfl

/-- Everybody's shared secret with a key is the key itself. -/
theorem PrivateKey.anyone_sharedSecret (k : PublicKey) :
    PrivateKey.anyone.sharedSecret k = k.toBytes := by
  rw [PrivateKey.sharedSecret, PrivateKey.anyone]
  simp only [Point.smul_one]
  rfl

/-- The invoice number of the linkage keys of a protocol. -/
theorem invoiceNumber_linkageContext (p : Protocol) (c : Counterparty) :
    (linkageContext p c).invoiceNumber = .ok ("2-" ++ p.protocolName ++ "-1") := by
  -- the invoice number reads the protocol and the key id, not the counterparty
  have hc : (linkageContext p c).invoiceNumber = (linkageContext p .anyone).invoiceNumber := rfl
  rw [hc]
  cases p <;> decide +kernel

/-- The tweak of the linkage keys of `p` between the root key `a` and everybody. Both sides
hash the same shared point, `a` times the base point, under the same invoice number. -/
def linkageTweak (a : PrivateKey) (p : Protocol) : Nat :=
  invoiceTweak a.publicKey.toBytes ("2-" ++ p.protocolName ++ "-1")

theorem linkageTweak_eq (a : PrivateKey) (p : Protocol) :
    linkageTweak a p = invoiceTweak a.publicKey.toBytes ("2-" ++ p.protocolName ++ "-1") := rfl

/-- A child private key is the scalar moved by the tweak of the shared secret. -/
theorem PrivateKey.scalar_of_deriveChild {k : PrivateKey} {other : PublicKey} {invoice : String}
    {c : PrivateKey} (h : k.deriveChild other invoice = .ok c) :
    c.scalar = (k.scalar + invoiceTweak (k.sharedSecret other) invoice) % groupOrder := by
  unfold PrivateKey.deriveChild at h
  dsimp only at h
  split at h
  · cases h
    rfl
  · cases h

/-- The wallet's own linkage key towards everybody: its root scalar plus the linkage tweak. -/
theorem scalar_of_derivePrivate_linkage {w : ProtoWallet} {p : Protocol} {c : PrivateKey}
    (h : w.derivePrivate (linkageContext p .anyone) = .ok c) :
    c.scalar = (w.root.scalar + linkageTweak w.root p) % groupOrder := by
  unfold ProtoWallet.derivePrivate at h
  rw [invoiceNumber_linkageContext] at h
  rw [PrivateKey.scalar_of_deriveChild h]
  change (_ + invoiceTweak (w.root.sharedSecret PrivateKey.anyone.publicKey) _) % _ = _
  rw [PrivateKey.sharedSecret_anyone, linkageTweak_eq]

/-- The wallet's own linkage key towards everybody exists when its scalar is not zero. -/
theorem derivePrivate_linkage {w : ProtoWallet} {p : Protocol}
    (h : 0 < (w.root.scalar + linkageTweak w.root p) % groupOrder) :
    w.derivePrivate (linkageContext p .anyone) =
      .ok ⟨(w.root.scalar + linkageTweak w.root p) % groupOrder, h, Nat.mod_lt _ (by decide)⟩ := by
  have hsecret := PrivateKey.sharedSecret_anyone w.root
  unfold ProtoWallet.derivePrivate
  rw [invoiceNumber_linkageContext]
  change w.root.deriveChild PrivateKey.anyone.publicKey _ = _
  unfold PrivateKey.deriveChild
  dsimp only
  -- rewriting under the `if` with `simp only`: `rw` would try to close the goal by evaluating
  -- the condition
  simp only [hsecret, ← linkageTweak_eq]
  exact dif_pos h

/-- The signature of an advertisement by the wallet's own linkage key, the scalar `(a + t) mod n`
of its root scalar `a` and linkage tweak `t`, has nonzero scalars `r` and `s`. ECDSA signing
fails rather than return a zero scalar, so every advertisement actually signed has this. -/
def AdvertisementSignatureInRange (w : ProtoWallet) (p : Protocol) (domain bare : String) :
    Prop :=
  (signDigest ((w.root.scalar + linkageTweak w.root p) % groupOrder)
    (sha256 (flattenForSigning (unsignedTokenFields p w.identityKey domain bare)))).InRange

/-- A key that reads back from its encoding is not the point at infinity. -/
theorem PublicKey.point_ne_infinity {k : PublicKey} (h : PublicKey.ofBytes k.toBytes = .ok k) :
    k.point ≠ .infinity := by
  intro hk
  rw [PublicKey.toBytes, hk] at h
  cases h

/-- Everybody derives, from a wallet's identity, the wallet's own linkage key. -/
theorem anyone_getPublicKey_linkage {a : PrivateKey} {p : Protocol} {c : PrivateKey}
    (hc : c.scalar = (a.scalar + linkageTweak a p) % groupOrder) :
    ProtoWallet.anyone.getPublicKey (linkageContext p (.other a.publicKey)) false =
      .ok c.publicKey := by
  unfold ProtoWallet.getPublicKey
  rw [if_neg Bool.false_ne_true, invoiceNumber_linkageContext]
  change (a.publicKey.deriveChild PrivateKey.anyone ("2-" ++ p.protocolName ++ "-1")).mapError
    WalletError.crypto = _
  unfold PublicKey.deriveChild
  rw [PrivateKey.anyone_sharedSecret]
  dsimp only
  rw [← linkageTweak_eq, show a.publicKey.point = Point.smul a.scalar Point.base from rfl,
    Point.add_smul_base, ← hc]
  -- the child point is no point at infinity, as it reads back
  have hne : Point.smul c.scalar Point.base ≠ .infinity :=
    PublicKey.point_ne_infinity (PrivateKey.ofBytes_publicKey_toBytes c)
  have hpub : c.publicKey = ⟨Point.smul c.scalar Point.base⟩ := rfl
  rw [hpub]
  cases hpt : Point.smul c.scalar Point.base with
  | infinity => exact absurd hpt hne
  | affine x y => rfl

/-- What signing an advertisement produced: a child key of the wallet for the linkage context
towards everybody, the fields signed by it, and a script locked to its public key. -/
theorem signToken_eq_ok {w : ProtoWallet} {identity : PublicKey} {p : Protocol}
    {domain bare : String} {tok : SignedToken}
    (h : signToken w identity p domain bare = .ok tok) :
    ∃ c, w.derivePrivate (linkageContext p .anyone) = .ok c ∧ tok.lockingKey = c.publicKey ∧
      tok.fields = unsignedTokenFields p identity domain bare ++
        [c.sign (flattenForSigning (unsignedTokenFields p identity domain bare))] ∧
      PushDrop.encode tok.fields tok.lockingKey = .ok tok.script := by
  unfold signToken at h
  cases hd : w.derivePrivate (linkageContext p .anyone) with
  | error e =>
    simp [ProtoWallet.createSignature, hd, Except.map, Except.mapError, bind, Except.bind] at h
  | ok c =>
    simp only [ProtoWallet.createSignature, ProtoWallet.getPublicKey, hd, if_true, Except.map,
      Except.mapError, bind, Except.bind] at h
    cases he : PushDrop.encode (unsignedTokenFields p identity domain bare ++
      [c.sign (flattenForSigning (unsignedTokenFields p identity domain bare))]) c.publicKey with
    | error e => simp [he] at h
    | ok script =>
      simp only [he, pure, Except.pure, Except.ok.injEq] at h
      subst h
      exact ⟨c, rfl, rfl, rfl, he⟩

theorem Protocol.ofTagBytes?_tag (p : Protocol) : Protocol.ofTagBytes? (Bytes.ofString p.tag) = some p := by
  cases p with
  | ship => exact if_pos rfl
  | slap =>
    have hne : Bytes.ofString "SLAP" ≠ Bytes.ofString "SHIP" :=
      Function.Injective.ne Bytes.ofString_injective (by decide)
    exact (if_neg hne).trans (if_pos rfl)

/-- Characters none of which is blank have nothing to trim. -/
theorem Text.trimChars_of_not_blank {cs : List Char} (h : ∀ c ∈ cs, Text.isBlank c = false) :
    Text.trimChars cs = cs := by
  have hkeep : ∀ l : List Char, (∀ c ∈ l, Text.isBlank c = false) → l.dropWhile Text.isBlank = l := by
    intro l hl
    rw [List.dropWhile_eq_self_iff]
    intro hpos
    simp [hl _ (List.getElem_mem hpos)]
  rw [Text.trimChars, hkeep cs h, hkeep cs.reverse (fun c hc => h c (List.mem_reverse.mp hc)),
    List.reverse_reverse]

/-- Hexadecimal text has no blanks to trim. -/
theorem Text.trim_toHex (bs : Bytes) : Text.trim (Bytes.toHex bs) = Bytes.toHex bs := by
  have hdigit : ∀ n : Fin 16, Text.isBlank (Bytes.hexDigit n) = false := by decide
  have hblank : ∀ c ∈ bs.flatMap Bytes.byteHex, Text.isBlank c = false := by
    intro c hc
    obtain ⟨b, -, hb⟩ := List.mem_flatMap.mp hc
    simp only [Bytes.byteHex, List.mem_cons, List.mem_nil_iff, or_false] at hb
    have hlt : b.toNat < 256 := b.toNat_lt
    rcases hb with rfl | rfl
    · exact hdigit ⟨b.toNat / 16, by omega⟩
    · exact hdigit ⟨b.toNat % 16, by omega⟩
  rw [Text.trim, Bytes.toHex, String.toList_ofList, Text.trimChars_of_not_blank hblank]

/-- **A signed advertisement is linked**: everybody, checking the token a wallet signed for its
own identity, finds the signature valid under the key derived from that identity, and the
token locked to that key. -/
theorem verifyLinkage_signToken {w : ProtoWallet} {p : Protocol} {domain bare : String}
    {tok : SignedToken} (hsign : signToken w w.identityKey p domain bare = .ok tok)
    (hsig : AdvertisementSignatureInRange w p domain bare) :
    verifyLinkage ProtoWallet.anyone tok.lockingKey.toHex tok.fields = .ok true := by
  obtain ⟨c, hc, hkey, hfields, -⟩ := signToken_eq_ok hsign
  have hscalar := scalar_of_derivePrivate_linkage hc
  have hverifier : ProtoWallet.anyone.getPublicKey (linkageContext p (.other w.identityKey))
      false = .ok c.publicKey := anyone_getPublicKey_linkage hscalar
  rw [hkey, hfields]
  unfold verifyLinkage
  have hroot : PublicKey.ofBytes w.identityKey.toBytes = .ok w.identityKey :=
    PrivateKey.ofBytes_publicKey_toBytes w.root
  have hne : w.identityKey.toBytes.isEmpty = false := by
    unfold PublicKey.toBytes Point.toCompressed
    split <;> rfl
  -- the child key's signature verifies, its scalars being nonzero
  rw [AdvertisementSignatureInRange, ← hscalar] at hsig
  replace hsig := PrivateKey.verify_sign c _ hsig
  simp only [unsignedTokenFields] at hsig
  simp only [unsignedTokenFields, List.cons_append, List.nil_append, List.length_cons,
    List.length_nil, List.headD_cons, Protocol.ofTagBytes?_tag, List.getD_cons_succ,
    List.getD_cons_zero, hne, hroot, List.dropLast, List.getLastD, List.getLast_cons_cons,
    List.getLast_singleton, ProtoWallet.verifySignature, hverifier, Except.map, Bool.false_eq_true,
    if_false, Nat.zero_add, Nat.reduceAdd, Nat.reduceLT, hsig, PublicKey.toHex, Text.trim_toHex,
    beq_self_eq_true]

end ShipSlap
