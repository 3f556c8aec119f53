import Mathlib
import ShipSlap.Proofs.Hash.Sha256
import ShipSlap.Proofs.Linkage
import ShipSlap.Proofs.Lookup.Run
import ShipSlap.Proofs.Text.Utf8
import ShipSlap.Proofs.Token.PushDrop
/-!
Admission of the advertisements a wallet signs. Main statement: `signToken_admitted`, a wallet
signing an advertisement of a valid name for its own identity gets a token, and the lookup
service of the protocol admits the token's script and records the advertisement under the
wallet's identity.

The way through runs over four parts written apart from each other, each with its own lemma: the
fields read back from their UTF-8 bytes (`decodeUtf8?_ofString`), the PushDrop script read back
into its fields and key (`PushDrop.decode_encode`), the checker's linkage key met by the signer's
(`verifyLinkage_signToken`), and the lookup's name rebuilt from the prefix and the bare name.

What this rests on of secp256k1 is proved of the curve, but for one condition on the signing:
the signature's scalars are nonzero (`AdvertisementSignatureInRange`), which the signer requires
of every signature it returns.
-/
namespace ShipSlap.Lookup

open Secp256k1 Store LookupService

/-- A name that passes validation is at most `Name.maxLength` bytes long. -/
theorem Name.utf8ByteSize_le_of_validate {name : String} (h : Name.validate name = .ok ()) :
    name.utf8ByteSize ≤ Name.maxLength := by
  unfold Name.validate at h
  -- every branch but the last returns an error
  split_ifs at h with hempty hlong
  omega

/-- The bare part of a valid full name fits a push. -/
theorem length_ofString_bare_lt {p : Protocol} {bare : String}
    (h : Name.validate (p.fullName bare) = .ok ()) : (Bytes.ofString bare).length < 2 ^ 32 := by
  have hle := Name.utf8ByteSize_le_of_validate h
  have hmax : Name.maxLength = 50 := rfl
  rw [Protocol.fullName, String.utf8ByteSize_append] at hle
  rw [Bytes.length_ofString]
  omega

/-- Signing an advertisement succeeds when the wallet's linkage key exists and the domain and the
bare name fit a push. -/
theorem signToken_isOk {w : ProtoWallet} {identity : PublicKey} {p : Protocol}
    {domain bare : String} (hchild : 0 < (w.root.scalar + linkageTweak w.root p) % groupOrder)
    (hdomain : (Bytes.ofString domain).length < 2 ^ 32)
    (hbare : (Bytes.ofString bare).length < 2 ^ 32) :
    ∃ tok, signToken w identity p domain bare = .ok tok := by
  set c : PrivateKey := ⟨_, hchild, Nat.mod_lt _ (by decide)⟩
  set unsigned := unsignedTokenFields p identity domain bare
  have htag : (Bytes.ofString p.tag).length < 2 ^ 32 := by
    rw [Bytes.length_ofString]
    cases p <;> decide
  have hsig : (c.sign (flattenForSigning unsigned)).length < 2 ^ 32 :=
    (Signature.length_toDer_le _).trans_lt (by decide)
  have hfit : ∀ f ∈ unsigned ++ [c.sign (flattenForSigning unsigned)], f.length < 2 ^ 32 := by
    simp only [unsigned, unsignedTokenFields, List.cons_append, List.nil_append, List.mem_cons,
      List.not_mem_nil, or_false]
    rintro f (rfl | rfl | rfl | rfl | rfl)
    exacts [htag, PushDrop.length_toBytes_lt identity, hdomain, hbare, hsig]
  obtain ⟨script, hencode⟩ : ∃ script, PushDrop.encode
      (unsigned ++ [c.sign (flattenForSigning unsigned)]) c.publicKey = .ok script :=
    ⟨_, Iff.mpr PushDrop.encode_eq_ok ⟨by simp, hfit, rfl⟩⟩
  refine ⟨⟨c.publicKey, unsigned ++ [c.sign (flattenForSigning unsigned)], script⟩, ?_⟩
  simp only [signToken, ProtoWallet.createSignature, ProtoWallet.getPublicKey,
    derivePrivate_linkage hchild, if_true, Except.map, Except.mapError, bind, Except.bind]
  rw [hencode]
  rfl

/-- The unsigned fields of an advertisement read back as what was signed. -/
theorem ofFields_unsignedTokenFields (p : Protocol) (identity : PublicKey) (domain bare : String)
    (rest : List Bytes) :
    AdvertisementFields.ofFields (unsignedTokenFields p identity domain bare ++ rest) =
      .ok ⟨p, identity.toHex, domain, bare⟩ := by
  simp only [unsignedTokenFields, List.cons_append, AdvertisementFields.ofFields,
    Protocol.ofTagBytes?_tag, Text.decodeUtf8?_ofString]
  rfl

/-- What admission makes of a signed advertisement: the entry of its identity, domain and
full name. -/
theorem admissionEntry_signToken {w : ProtoWallet} {p : Protocol} {domain bare : String}
    {tok : SignedToken} (hsign : signToken w w.identityKey p domain bare = .ok tok)
    (hname : Name.validate (p.fullName bare) = .ok ())
    (hsig : AdvertisementSignatureInRange w p domain bare)
    (o : Outpoint) (topic : String) :
    admissionEntry p ⟨o, topic, tok.script⟩ =
      .ok ⟨o, w.identityKey.toHex, domain, p.fullName bare⟩ := by
  obtain ⟨c, -, hkey, hfields, hencode⟩ := signToken_eq_ok hsign
  have hlock : PublicKey.ofBytes tok.lockingKey.toBytes = .ok tok.lockingKey := by
    rw [hkey]
    exact PrivateKey.ofBytes_publicKey_toBytes c
  have hdecode : PushDrop.decode tok.script = .ok ⟨tok.lockingKey, tok.fields⟩ := by
    rw [PushDrop.decode_encode hencode, hlock]
    rfl
  have hlen : tok.fields.length = 5 := by simp [hfields, unsignedTokenFields]
  have hread : AdvertisementFields.ofFields tok.fields =
      .ok ⟨p, w.identityKey.toHex, domain, bare⟩ := by
    rw [hfields, ofFields_unsignedTokenFields]
  rw [admissionEntry_eq_ok]
  refine ⟨⟨tok.lockingKey, tok.fields⟩, _, ?_, hread, rfl, hname, by simp [hlen], ?_, ?_⟩
  · simp [PushDrop.decodeToken, hdecode, PushDrop.requireFields, hlen, bind, Except.bind]
  · exact verifyLinkage_signToken hsign hsig
  · rfl

/-- A signed token submitted under the protocol's topic is admitted, and the store then holds
its advertisement at the outpoint, stamped with the service's clock. -/
theorem receive_signToken {w : ProtoWallet} {p : Protocol} {domain bare : String}
    {tok : SignedToken} (hsign : signToken w w.identityKey p domain bare = .ok tok)
    (hname : Name.validate (p.fullName bare) = .ok ())
    (hsig : AdvertisementSignatureInRange w p domain bare)
    {svc : LookupService} {s : MemoryStore} (hp : svc.protocol = p)
    (hmem : svc.backend = .memory s) (o : Outpoint) :
    (svc.receive ⟨o, p.topic, tok.script⟩).2 = .admitted ∧
      (svc.receive ⟨o, p.topic, tok.script⟩).1.record? o =
        some ⟨o, w.identityKey.toHex, domain, p.fullName bare, svc.clock.now.toNat⟩ := by
  subst hp
  have hentry := admissionEntry_signToken hsign hname hsig o svc.protocol.topic
  refine ⟨?_, ?_⟩
  · rw [receive_outcome hmem, admissionOutcome_eq_admitted]
    exact ⟨rfl, _, hentry⟩
  · have hreceive : (svc.receive ⟨o, svc.protocol.topic, tok.script⟩).1 =
        { svc with backend := .memory (s.store ⟨o, w.identityKey.toHex, domain,
          svc.protocol.fullName bare⟩ svc.clock.now.toNat) } :=
      receive_admitted hmem rfl hentry
    rw [hreceive, record?_of_memory rfl, MemoryStore.get?_store, if_pos rfl]
    rfl

/-- **Advertisements a wallet signs are admitted.** A wallet signs an advertisement of the bare
name `bare` at `domain` under protocol `p` for its own identity, the full name being valid. The
signing gives a token, unless the domain does not fit a push or the linkage key would be zero,
the two failures the signer checks; and its signature has nonzero scalars, as ECDSA signing
requires of every signature it returns. Everybody then finds the token linked; the lookup service of
`p`, over any store in memory, admits its script under the protocol's topic at any outpoint `o`;
and the store then holds at `o` the record of the identity, the domain and the full name, stamped
with the service's clock. -/
theorem signToken_admitted (w : ProtoWallet) (p : Protocol) (domain bare : String)
    (hname : Name.validate (p.fullName bare) = .ok ())
    (hdomain : (Bytes.ofString domain).length < 2 ^ 32)
    (hchild : 0 < (w.root.scalar + linkageTweak w.root p) % groupOrder)
    (hsig : AdvertisementSignatureInRange w p domain bare)
    (svc : LookupService) (s : MemoryStore) (hp : svc.protocol = p)
    (hmem : svc.backend = .memory s) (o : Outpoint) :
    ∃ tok, signToken w w.identityKey p domain bare = .ok tok ∧
      verifyLinkage ProtoWallet.anyone tok.lockingKey.toHex tok.fields = .ok true ∧
      (svc.receive ⟨o, p.topic, tok.script⟩).2 = .admitted ∧
      (svc.receive ⟨o, p.topic, tok.script⟩).1.record? o =
        some ⟨o, w.identityKey.toHex, domain, p.fullName bare, svc.clock.now.toNat⟩ := by
  have hsigned : ∃ tok, signToken w w.identityKey p domain bare = .ok tok :=
    signToken_isOk hchild hdomain (length_ofString_bare_lt hname)
  obtain ⟨tok, hsign⟩ := hsigned
  exact ⟨tok, hsign, verifyLinkage_signToken hsign hsig,
    receive_signToken hsign hname hsig hp hmem o⟩

/-- A wallet of its own, over the root scalar `2`. -/
def doubledBaseWallet : ProtoWallet :=
  ⟨⟨2, by decide⟩⟩

/-- The lookup service of SHIP over an empty store, its clock at zero. -/
def emptyShipService : LookupService :=
  { protocol := .ship, backend := .memory {}, clock := ⟨0⟩ }

/-- Output `0` of the transaction whose id is 32 bytes `c1`. -/
def sampleOutpoint : Outpoint :=
  ⟨⟨List.replicate 32 0xc1, List.length_replicate⟩, 0⟩

/-- The wallet over `2` advertises `tm_payments` at `https://host.example`: its linkage key is
not zero, its signature's scalars are not zero, and the lookup service of SHIP admits the
token. -/
theorem signToken_admitted_doubledBase :
    Name.validate (Protocol.ship.fullName "payments") = .ok () ∧
      (Bytes.ofString "https://host.example").length < 2 ^ 32 ∧
      0 < (doubledBaseWallet.root.scalar + linkageTweak doubledBaseWallet.root .ship) %
        groupOrder ∧
      AdvertisementSignatureInRange doubledBaseWallet .ship "https://host.example" "payments" ∧
      ∃ tok, signToken doubledBaseWallet doubledBaseWallet.identityKey .ship
          "https://host.example" "payments" = .ok tok ∧
        verifyLinkage ProtoWallet.anyone tok.lockingKey.toHex tok.fields = .ok true ∧
        (emptyShipService.receive ⟨sampleOutpoint, Protocol.ship.topic, tok.script⟩).2 =
          .admitted ∧
        (emptyShipService.receive ⟨sampleOutpoint, Protocol.ship.topic, tok.script⟩).1.record?
            sampleOutpoint =
          some ⟨sampleOutpoint, doubledBaseWallet.identityKey.toHex, "https://host.example",
            Protocol.ship.fullName "payments", emptyShipService.clock.now.toNat⟩ := by
  have hname : Name.validate (Protocol.ship.fullName "payments") = .ok () := by
    decide
  have hdomain : (Bytes.ofString "https://host.example").length < 2 ^ 32 := by
    rw [Bytes.length_ofString]
    decide
  -- The signing, one step at a time: the linkage tweak, the digest of the signed bytes, the
  -- RFC 6979 nonce and its multiple of the base point. The kernel runs SHA-256 with the window
  -- schedule and the multiple in Jacobian coordinates, all in this one proof.
  have htweak : linkageTweak doubledBaseWallet.root .ship =
      0x514fecb4e126e7fc1f5d22095006e417a8774ac7ea685b1b9a130ef36071f7fe := by
    rw [linkageTweak_eq, invoiceTweak, hmacSha256, sha256_eq_sha256Window]
    decide +kernel
  have hdigest : Bytes.toNat (sha256 (flattenForSigning (unsignedTokenFields .ship
      doubledBaseWallet.identityKey "https://host.example" "payments"))) % groupOrder =
      0x11d857a3d26dd400cf634ec996594e1fecc87c33c0f59f81969e8597954c1129 := by
    rw [sha256_eq_sha256Window]
    decide +kernel
  have hnonce : nonce 0x514fecb4e126e7fc1f5d22095006e417a8774ac7ea685b1b9a130ef36071f800
      0x11d857a3d26dd400cf634ec996594e1fecc87c33c0f59f81969e8597954c1129 =
      0x5fe4eb39e24e14a44867948fc491ee055015146233a44fb2afd339a1c240ba2e := by
    -- the first candidate is taken, so only the seed and one draw are evaluated
    rw [nonce, NonceState.draw, NonceState.next, NonceState.seed]
    simp -zeta only [hmacSha256, sha256_eq_sha256Window]
    decide +kernel
  have hR : Point.smul 0x5fe4eb39e24e14a44867948fc491ee055015146233a44fb2afd339a1c240ba2e
      Point.base = .affine 0x558614b9c5a2475f84478a116147fb7718e7482ceb1c39211444eb4d4263138c
        0x79330a0660acaf80060d171b0349ce39a0c14c239e14c97b81baead4233566f2 := by
    rw [Point.smul_base_eq_toPoint]
    decide +kernel
  have hkey : (doubledBaseWallet.root.scalar + linkageTweak doubledBaseWallet.root .ship) %
      groupOrder = 0x514fecb4e126e7fc1f5d22095006e417a8774ac7ea685b1b9a130ef36071f800 := by
    rw [htweak]
    decide
  have hchild : 0 < (doubledBaseWallet.root.scalar + linkageTweak doubledBaseWallet.root .ship) %
      groupOrder := by
    rw [hkey]
    decide
  have hsig : AdvertisementSignatureInRange doubledBaseWallet .ship "https://host.example"
      "payments" := by
    unfold AdvertisementSignatureInRange signDigest
    dsimp only
    rw [hkey, hdigest, hnonce, hR]
    decide +kernel
  exact ⟨hname, hdomain, hchild, hsig, signToken_admitted doubledBaseWallet .ship _ _ hname hdomain
    hchild hsig emptyShipService {} rfl rfl sampleOutpoint⟩

end ShipSlap.Lookup
