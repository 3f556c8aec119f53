import Mathlib
import ShipSlap.Advertiser.Service
import ShipSlap.Proofs.Lookup.Admission
import ShipSlap.Proofs.Key.Encoding
import ShipSlap.Proofs.Name.Grammar
/-!
Creating advertisements. The advertiser checks every entry first, then signs a token for each,
then asks the wallet for one transaction with an output per entry. What is proved:

1. `mapM_eq_ok_iff`, `mapM_eq_error`, `mapM_eq_error_of_first`: a list read entry by entry
   succeeds exactly when every entry does, with the results side by side with the entries, and
   otherwise fails with the error of its first failing entry.
2. `bareNameFor_eq_ok`, `bareNameFor_isOk_iff`: an entry is accepted exactly when its name
   does not carry the other protocol's prefix and the name it advertises, with its own prefix
   put in front when missing (`AdvertisementData.fullName`), is valid.
3. `bundleTopics_eq_eraseDups`: a bundle goes to the topics of its protocols, each once, in the
   order first met.
4. `decodeAdvertisement_signToken`, `signToken_ne_ok`: a signed token reads back as the
   advertisement that was signed, the locking key because every key a private key gives does;
   signing fails for exactly the two reasons the signer checks (`SigningFails`).
5. `create_eq_of_accepted`, `create_eq_error_of_first`: once every entry is accepted,
   creating asks the wallet for one transaction with the signed output of each entry, in order,
   unless signing fails and creating with it; otherwise it fails at the first refused entry.
6. `create_parses_back`: the advertiser refuses an entry exactly when it is not accepted, and
   every output it asks for is worth the configured amount and reads back as the advertisement
   asked for.
-/
namespace ShipSlap

theorem Protocol.length_namePrefix (p : Protocol) : p.namePrefix.toList.length = 3 := by
  cases p <;> rfl

namespace Advertiser

open Secp256k1

/-! ## Lists read entry by entry -/

section Traversal

variable {α β ε : Type} {f : α → Except ε β}

theorem bind_eq_ok_iff {γ : Type} {x : Except ε α} {g : α → Except ε γ} {c : γ} :
    x.bind g = .ok c ↔ ∃ y, x = .ok y ∧ g y = .ok c := by
  cases x <;> simp [Except.bind]

/-- Reading a list entry by entry succeeds exactly when every entry does, with the results side
by side with the entries. -/
theorem mapM_eq_ok_iff : ∀ (xs : List α) (ys : List β),
    xs.mapM f = .ok ys ↔ List.Forall₂ (fun x y => f x = .ok y) xs ys
  | [], ys => by cases ys <;> simp [pure, Except.pure]
  | x :: xs, ys => by
    -- the head reads to the first result and the tail, by recursion, to the rest
    have ih := mapM_eq_ok_iff xs
    rw [List.mapM_cons]
    cases ys with
    | nil => simp [bind, pure, Except.pure, bind_eq_ok_iff]
    | cons y ys => simp [bind, pure, Except.pure, bind_eq_ok_iff, ← ih]

/-- A failed reading fails with the error of one of the entries. -/
theorem mapM_eq_error {xs : List α} {e : ε} (h : xs.mapM f = .error e) :
    ∃ x ∈ xs, f x = .error e := by
  induction xs with
  | nil => simp [pure, Except.pure] at h
  | cons x xs ih =>
    rw [List.mapM_cons] at h
    cases hx : f x with
    | error e' =>
      simp only [hx, bind, Except.bind, Except.error.injEq] at h
      exact ⟨x, by simp, h ▸ hx⟩
    | ok y =>
      cases ht : xs.mapM f with
      | error e' =>
        simp only [hx, ht, bind, Except.bind, Except.error.injEq] at h
        obtain ⟨x', hx', hf⟩ := ih (h ▸ ht)
        exact ⟨x', List.mem_cons_of_mem _ hx', hf⟩
      | ok ys => simp [hx, ht, bind, Except.bind, pure, Except.pure] at h

/-- Reading a list whose entries all read succeeds. -/
theorem exists_mapM_eq_ok {xs : List α} (h : ∀ x ∈ xs, ∃ y, f x = .ok y) :
    ∃ ys, xs.mapM f = .ok ys := by
  cases hm : xs.mapM f with
  | ok ys => exact ⟨ys, rfl⟩
  | error e =>
    obtain ⟨x, hx, hfx⟩ := mapM_eq_error hm
    obtain ⟨y, hy⟩ := h x hx
    rw [hy] at hfx
    cases hfx

/-- Reading a list with an entry that does not read fails. -/
theorem exists_mapM_eq_error {xs : List α} {x : α} (hx : x ∈ xs) (h : ∀ y, f x ≠ .ok y) :
    ∃ e, xs.mapM f = .error e := by
  cases hm : xs.mapM f with
  | error e => exact ⟨e, rfl⟩
  | ok ys =>
    -- the results stand side by side with the entries, so `x` would have one
    have hrel := (mapM_eq_ok_iff xs ys).mp hm
    clear hm
    induction hrel with
    | nil => cases hx
    | @cons x' y _ _ hxy _ ih =>
      rcases List.mem_cons.mp hx with rfl | hx'
      · exact absurd hxy (h y)
      · obtain ⟨e, he⟩ := ih hx'
        cases he

/-- Reading a list fails with the error of its first entry that fails. -/
theorem mapM_eq_error_of_first : ∀ (xs : List α) (i : Nat) (hi : i < xs.length) {e : ε},
    (∀ j (hj : j < xs.length), j < i → ∃ y, f xs[j] = .ok y) → f xs[i] = .error e →
    xs.mapM f = .error e
  | [], _, hi, _, _, _ => absurd hi (Nat.not_lt_zero _)
  | x :: xs, 0, _, e, _, he => by
    rw [List.mapM_cons]
    simp only [List.getElem_cons_zero] at he
    simp [he, bind, Except.bind]
  | x :: xs, i + 1, hi, e, hbefore, he => by
    obtain ⟨y, hy⟩ := hbefore 0 (Nat.zero_lt_succ _) (Nat.zero_lt_succ _)
    have hrest := mapM_eq_error_of_first xs i (Nat.lt_of_succ_lt_succ hi)
      (fun j hj hji => hbefore (j + 1) (Nat.succ_lt_succ hj) (Nat.succ_lt_succ hji)) he
    rw [List.mapM_cons]
    simp only [List.getElem_cons_zero] at hy
    simp [hy, hrest, bind, Except.bind]

/-- Reading a list, numbered from `n`, by a reading that ignores the number on success. -/
theorem mapM_zipIdx_eq_ok {f : α × Nat → Except ε β} {g : α → β} {xs : List α}
    (h : ∀ x ∈ xs, ∀ i, f (x, i) = .ok (g x)) (n : Nat) :
    (xs.zipIdx n).mapM f = .ok (xs.map g) := by
  induction xs generalizing n with
  | nil => rfl
  | cons x xs ih =>
    rw [List.zipIdx_cons, List.mapM_cons, h x (by simp) n,
      ih (fun x hx => h x (List.mem_cons_of_mem _ hx)) (n + 1)]
    rfl

/-- A relation between two lists weakens to one that may use that the left entry is there. -/
theorem forall₂_imp_of_mem {R S : α → β → Prop} {xs : List α} {ys : List β}
    (h : ∀ x ∈ xs, ∀ y, R x y → S x y) (hr : List.Forall₂ R xs ys) : List.Forall₂ S xs ys :=
  ((List.forall₂_and_left _ _).mpr ⟨h, hr⟩).imp fun _ y ⟨hx, hxy⟩ => hx y hxy

/-- The first entry of a list that fails a test, when one does. -/
theorem exists_first_not {p : α → Prop} [DecidablePred p] {xs : List α} (h : ∃ x ∈ xs, ¬ p x) :
    ∃ i, ∃ hi : i < xs.length, ¬ p xs[i] ∧ ∀ j (hj : j < xs.length), j < i → p xs[j] := by
  have hlt : xs.findIdx (fun x => !decide (p x)) < xs.length :=
    List.findIdx_lt_length_of_exists (by simpa using h)
  have hfound := @List.findIdx_getElem _ _ xs hlt
  refine ⟨_, hlt, by simpa using hfound, fun j hj hji => ?_⟩
  simpa using List.not_of_lt_findIdx hji

end Traversal

/-! ## Accepted entries -/

/-- The name an entry advertises: the name itself when it carries its protocol's prefix, and
the prefix put in front otherwise. -/
def AdvertisementData.fullName (ad : AdvertisementData) : String :=
  if ad.protocol.namePrefix.toList <+: ad.name.toList then ad.name
  else ad.protocol.namePrefix ++ ad.name

/-- An entry the advertiser accepts: its name does not carry the other protocol's prefix, and
the name it advertises is a valid topic or service name. -/
def AdvertisementData.Accepted (ad : AdvertisementData) : Prop :=
  ¬ ad.protocol.other.namePrefix.toList <+: ad.name.toList ∧ Name.isValid ad.fullName = true

instance : DecidablePred AdvertisementData.Accepted := fun _ =>
  inferInstanceAs (Decidable (_ ∧ _))

/-- Putting the prefix back in front of the bare name gives the advertised name. -/
theorem fullName_bareName (ad : AdvertisementData) :
    ad.protocol.fullName (ad.protocol.bareName ad.name) = ad.fullName := by
  unfold Protocol.bareName AdvertisementData.fullName
  by_cases hpre : ad.protocol.namePrefix.toList <+: ad.name.toList
  · have hstarts : ad.name.startsWith ad.protocol.namePrefix = true :=
      String.startsWith_string_iff.mpr hpre
    rw [if_pos hstarts, if_pos hpre, Protocol.fullName]
    obtain ⟨rest, hrest⟩ := hpre
    have hdrop : ad.name.toList.drop 3 = rest := by
      rw [← hrest, ← ad.protocol.length_namePrefix, List.drop_left]
    rw [hdrop, ← String.toList_inj, String.toList_append, String.toList_ofList, hrest]
  · have hstarts : ¬ ad.name.startsWith ad.protocol.namePrefix = true :=
      fun h => hpre (String.startsWith_string_iff.mp h)
    rw [if_neg hstarts, if_neg hpre, Protocol.fullName]

/-- The other protocol's prefix is the one prefix an entry may not carry. -/
theorem find?_prefixed_other (ad : AdvertisementData) :
    Protocol.all.find? (fun p => p != ad.protocol && ad.name.startsWith p.namePrefix) =
      if ad.protocol.other.namePrefix.toList <+: ad.name.toList then some ad.protocol.other
      else none := by
  cases hp : ad.protocol <;>
    by_cases hpre : ad.protocol.other.namePrefix.toList <+: ad.name.toList <;>
    simp_all [Protocol.all, Protocol.other]

/-- The name an accepted entry advertises, rebuilt from its bare name, is valid. -/
theorem validate_fullName_of_accepted {ad : AdvertisementData} (h : ad.Accepted) :
    Name.validate (ad.protocol.fullName (ad.protocol.bareName ad.name)) = .ok () := by
  rw [fullName_bareName]
  exact (Name.isValid_iff _).mp h.2

/-- An accepted entry advertises its bare name: the name without its own prefix. -/
theorem bareNameFor_eq_ok {ad : AdvertisementData} (h : ad.Accepted) :
    bareNameFor ad = .ok (ad.protocol.bareName ad.name) := by
  unfold bareNameFor
  rw [find?_prefixed_other, if_neg h.1]
  simp only [validate_fullName_of_accepted h]

/-- The advertiser refuses exactly the entries that are not accepted. -/
theorem bareNameFor_isOk_iff (ad : AdvertisementData) :
    (∃ bare, bareNameFor ad = .ok bare) ↔ ad.Accepted := by
  refine ⟨fun ⟨bare, h⟩ => ?_, fun h => ⟨_, bareNameFor_eq_ok h⟩⟩
  unfold bareNameFor at h
  by_cases hother : ad.protocol.other.namePrefix.toList <+: ad.name.toList
  · rw [find?_prefixed_other, if_pos hother] at h
    cases h
  · rw [find?_prefixed_other, if_neg hother] at h
    cases hvalid : Name.validate (ad.protocol.fullName (ad.protocol.bareName ad.name)) with
    | error e =>
      simp only [hvalid] at h
      cases h
    | ok u =>
      rw [fullName_bareName] at hvalid
      exact ⟨hother, (Name.isValid_iff _).mpr hvalid⟩

/-! ## Topics -/

/-- Adding items one at a time, each unless already there, keeps what was there and adds the
new items, each once, in the order first met. -/
theorem foldl_addNew (acc xs : List String) :
    xs.foldl (fun ts t => if ts.contains t then ts else ts ++ [t]) acc =
      acc ++ (xs.filter fun t => !acc.contains t).eraseDups := by
  induction xs generalizing acc with
  | nil => simp
  | cons x xs ih =>
    by_cases hx : acc.contains x = true
    · rw [List.foldl_cons, if_pos hx, ih, List.filter_cons, if_neg (by rw [hx]; decide)]
    · rw [List.foldl_cons, if_neg hx, ih, List.filter_cons, if_pos (by simpa using hx),
        List.eraseDups_cons, List.filter_filter, List.append_assoc, List.singleton_append]
      congr 4
      funext t
      simp only [List.contains_append, List.contains_cons, List.contains_nil, Bool.or_false,
        Bool.not_or]
      rw [Bool.and_comm]

/-- A bundle goes to the topics of its protocols, each once, in the order first met. -/
theorem bundleTopics_eq_eraseDups (ps : List Protocol) :
    bundleTopics ps = (ps.map Protocol.topic).eraseDups := by
  have hmap : bundleTopics ps = (ps.map Protocol.topic).foldl
      (fun ts t => if ts.contains t then ts else ts ++ [t]) [] := by
    rw [List.foldl_map]
    rfl
  rw [hmap, foldl_addNew]
  simp

/-! ## Signed outputs -/

/-- The two failures of signing an advertisement that the signer checks: the wallet's linkage
key for the protocol would be zero, or the domain does not fit a push. -/
def SigningFails (w : ProtoWallet) (p : Protocol) (domain : String) : Prop :=
  (w.root.scalar + linkageTweak w.root p) % groupOrder = 0 ∨
    2 ^ 32 ≤ (Bytes.ofString domain).length

/-- Signing fails for either reason the signer checks. -/
theorem signToken_ne_ok {w : ProtoWallet} {identity : PublicKey} {p : Protocol}
    {domain bare : String} (h : SigningFails w p domain) (tok : SignedToken) :
    signToken w identity p domain bare ≠ .ok tok := by
  intro hsign
  obtain ⟨c, hc, -, hfields, hencode⟩ := signToken_eq_ok hsign
  rcases h with hzero | hlong
  · -- the linkage key would be zero, which no private key is
    have hscalar := scalar_of_derivePrivate_linkage hc
    have hpos := c.valid.1
    omega
  · -- the domain is a field too long to push
    have hlt := (Iff.mp PushDrop.encode_eq_ok hencode).2.1 (Bytes.ofString domain)
      (by simp [hfields, unsignedTokenFields])
    omega

/-- A signed token reads back as the advertisement that was signed, with the full name. -/
theorem decodeAdvertisement_signToken {w : ProtoWallet} {identity : PublicKey} {p : Protocol}
    {domain bare : String} {tok : SignedToken}
    (hsign : signToken w identity p domain bare = .ok tok)
    (hname : Name.validate (p.fullName bare) = .ok ()) :
    PushDrop.decode tok.script = .ok ⟨tok.lockingKey, tok.fields⟩ ∧
      decodeAdvertisement tok.script =
        .ok ⟨p, identity.toHex, domain, p.fullName bare, none, none⟩ := by
  obtain ⟨c, -, hkey, hfields, hencode⟩ := signToken_eq_ok hsign
  have hdecode : PushDrop.decode tok.script = .ok ⟨tok.lockingKey, tok.fields⟩ := by
    rw [PushDrop.decode_encode hencode, hkey, PrivateKey.ofBytes_publicKey_toBytes]
    rfl
  have hlen : tok.fields.length = 5 := by simp [hfields, unsignedTokenFields]
  have hread : AdvertisementFields.ofFields tok.fields = .ok ⟨p, identity.toHex, domain, bare⟩ := by
    rw [hfields, Lookup.ofFields_unsignedTokenFields]
  refine ⟨hdecode, ?_⟩
  simp [decodeAdvertisement, PushDrop.decodeToken, hdecode, PushDrop.requireFields, hlen, hread,
    AdvertisementFields.fullName, hname, bind, Except.bind, Except.mapError, pure, Except.pure]

theorem signedOutput_ne_ok {a : WalletAdvertiser} {identity : PublicKey} {p : Protocol}
    {bare : String} (h : SigningFails a.wallet.keys p a.config.advertisableUri)
    (out : ActionOutput) : a.signedOutput identity p bare ≠ .ok out := by
  unfold WalletAdvertiser.signedOutput
  cases hsign : signToken a.wallet.keys identity p a.config.advertisableUri bare with
  | error e => cases e <;> simp
  | ok tok => exact absurd hsign (signToken_ne_ok h tok)

/-- Signing an accepted entry gives its output, a token of the configured value, unless signing
fails for one of the reasons the signer checks. -/
theorem signedOutput_cases (a : WalletAdvertiser) (identity : PublicKey) {ad : AdvertisementData}
    (h : ad.Accepted) :
    (∃ tok, signToken a.wallet.keys identity ad.protocol a.config.advertisableUri
        (ad.protocol.bareName ad.name) = .ok tok ∧
      a.signedOutput identity ad.protocol (ad.protocol.bareName ad.name) =
        .ok ⟨tok.script, a.config.outputSatoshis,
          ad.protocol.tag ++ " advertisement of " ++ ad.fullName⟩) ∨
    SigningFails a.wallet.keys ad.protocol a.config.advertisableUri := by
  by_cases hfails : SigningFails a.wallet.keys ad.protocol a.config.advertisableUri
  · exact .inr hfails
  · left
    simp only [SigningFails, not_or, not_le] at hfails
    obtain ⟨tok, hsign⟩ : ∃ tok, signToken a.wallet.keys identity ad.protocol
        a.config.advertisableUri (ad.protocol.bareName ad.name) = .ok tok :=
      Lookup.signToken_isOk (Nat.pos_of_ne_zero hfails.1) hfails.2
        (Lookup.length_ofString_bare_lt (validate_fullName_of_accepted h))
    refine ⟨tok, hsign, ?_⟩
    unfold WalletAdvertiser.signedOutput
    rw [hsign, fullName_bareName]

/-! ## Creating -/

/-- The outputs creating asks for once every entry is checked: the signed output of each entry,
under its bare name. -/
def signedOutputs (a : WalletAdvertiser) (identity : PublicKey) (ads : List AdvertisementData) :
    Except AdvertiserError (List ActionOutput) :=
  (ads.map fun ad => (ad, ad.protocol.bareName ad.name)).mapM fun x =>
    a.signedOutput identity x.1.protocol x.2

/-- Signing fails for what the wallet or the codec says, never for an entry. -/
theorem signedOutput_ne_invalidEntry (a : WalletAdvertiser) (identity : PublicKey) (p : Protocol)
    (bare : String) (i : Nat) (msg : String) :
    a.signedOutput identity p bare ≠ .error (.invalidEntry i msg) := by
  unfold WalletAdvertiser.signedOutput
  split <;> simp

/-- Every entry of a list of accepted entries passes the checks, with its bare name. -/
theorem checks_eq_ok {ads : List AdvertisementData} (hacc : ∀ ad ∈ ads, ad.Accepted) :
    (ads.zipIdx.mapM fun (ad, i) =>
      (bareNameFor ad).mapError (AdvertiserError.invalidEntry i)) =
      .ok (ads.map fun ad => ad.protocol.bareName ad.name) :=
  mapM_zipIdx_eq_ok (fun ad had i => by
    simp [bareNameFor_eq_ok (hacc ad had), Except.mapError]) 0

/-- Once every entry of a nonempty list is accepted, creating signs every entry and asks the
wallet for the transaction with the signed outputs. -/
theorem create_eq_of_checked (a : WalletAdvertiser) {identity : PublicKey}
    (hI : a.identity = some identity) {ads : List AdvertisementData} (hne : ads ≠ [])
    (hacc : ∀ ad ∈ ads, ad.Accepted) :
    a.create ads = (signedOutputs a identity ads).bind fun outs =>
      ((a.wallet.createAction ⟨createDescription, [], outs⟩).mapError .wallet).map fun r =>
        (⟨encode [r.1], (ads.map (·.protocol.topic)).eraseDups⟩, { a with wallet := r.2 }) := by
  have hzip : ads.zip (ads.map fun ad => ad.protocol.bareName ad.name) =
      ads.map fun ad => (ad, ad.protocol.bareName ad.name) := by
    simpa using
      (List.zip_map' : (ads.map id).zip (ads.map fun ad => ad.protocol.bareName ad.name) = _)
  have hempty : ads.isEmpty = false := List.isEmpty_eq_false_iff.mpr hne
  unfold WalletAdvertiser.create signedOutputs
  simp only [WalletAdvertiser.identityFor, hI, hempty, checks_eq_ok hacc, hzip, bind, Except.bind,
    pure, Except.pure, if_false, Bool.false_eq_true]
  cases (ads.map fun ad => (ad, ad.protocol.bareName ad.name)).mapM
      fun x => a.signedOutput identity x.1.protocol x.2 with
  | error e => rfl
  | ok outs =>
    dsimp only
    cases a.wallet.createAction ⟨createDescription, [], outs⟩ with
    | error e => rfl
    | ok r =>
      simp [Except.mapError, Except.map, bundleTopics_eq_eraseDups, List.map_map]
      rfl

/-- **What creating asks for.** Once every entry of a nonempty list is accepted, creating asks
the wallet for one transaction, with no inputs and one output per entry, in order: the token
signed for the entry, of the configured value. What the wallet gives goes into a bundle for the
protocols' topics, each once in the order first met. The exception is a signing failure for one
of the entries, and then creating fails. -/
theorem create_eq_of_accepted (a : WalletAdvertiser) {identity : PublicKey}
    (hI : a.identity = some identity) {ads : List AdvertisementData} (hne : ads ≠ [])
    (hacc : ∀ ad ∈ ads, ad.Accepted) :
    (∃ req : ActionRequest, req.description = createDescription ∧ req.inputs = [] ∧
      List.Forall₂ (fun ad out => ∃ tok, signToken a.wallet.keys identity ad.protocol
          a.config.advertisableUri (ad.protocol.bareName ad.name) = .ok tok ∧
        out = ⟨tok.script, a.config.outputSatoshis,
          ad.protocol.tag ++ " advertisement of " ++ ad.fullName⟩) ads req.outputs ∧
      a.create ads = ((a.wallet.createAction req).mapError .wallet).map fun r =>
        (⟨encode [r.1], (ads.map (·.protocol.topic)).eraseDups⟩, { a with wallet := r.2 })) ∨
    (∃ ad ∈ ads, SigningFails a.wallet.keys ad.protocol a.config.advertisableUri) ∧
      ∃ e, a.create ads = .error e := by
  by_cases hfails : ∃ ad ∈ ads, SigningFails a.wallet.keys ad.protocol a.config.advertisableUri
  · -- an entry cannot be signed, and creating fails before the wallet is asked
    refine .inr ⟨hfails, ?_⟩
    obtain ⟨ad, had, hfail⟩ := hfails
    obtain ⟨e, he⟩ : ∃ e, signedOutputs a identity ads = .error e :=
      exists_mapM_eq_error (List.mem_map_of_mem had) fun out => signedOutput_ne_ok hfail out
    rw [create_eq_of_checked a hI hne hacc, he]
    exact ⟨e, rfl⟩
  left
  push Not at hfails
  have hsigned : ∀ ad ∈ ads, ∃ tok, signToken a.wallet.keys identity ad.protocol
      a.config.advertisableUri (ad.protocol.bareName ad.name) = .ok tok ∧
      a.signedOutput identity ad.protocol (ad.protocol.bareName ad.name) =
        .ok ⟨tok.script, a.config.outputSatoshis,
          ad.protocol.tag ++ " advertisement of " ++ ad.fullName⟩ := fun ad had =>
    (signedOutput_cases a identity (hacc ad had)).resolve_right (hfails ad had)
  -- every entry is signed
  obtain ⟨outs, houts⟩ : ∃ outs, signedOutputs a identity ads = .ok outs := by
    refine exists_mapM_eq_ok ?_
    simp only [List.mem_map]
    rintro _ ⟨ad, had, rfl⟩
    obtain ⟨tok, -, hout⟩ := hsigned ad had
    exact ⟨_, hout⟩
  have hrel : List.Forall₂ (fun ad out => ∃ tok, signToken a.wallet.keys identity ad.protocol
      a.config.advertisableUri (ad.protocol.bareName ad.name) = .ok tok ∧
      out = ⟨tok.script, a.config.outputSatoshis,
        ad.protocol.tag ++ " advertisement of " ++ ad.fullName⟩) ads outs := by
    have h2 := (mapM_eq_ok_iff _ _).mp houts
    rw [List.forall₂_map_left_iff] at h2
    refine forall₂_imp_of_mem (fun ad had out hout => ?_) h2
    obtain ⟨tok, hsign, hout'⟩ := hsigned ad had
    exact ⟨tok, hsign, Except.ok.inj (hout.symm.trans hout')⟩
  refine ⟨⟨createDescription, [], outs⟩, rfl, rfl, hrel, ?_⟩
  rw [create_eq_of_checked a hI hne hacc, houts]
  rfl

/-- Once every entry is accepted, creating fails only for what signing or the wallet says. -/
theorem create_ne_invalidEntry (a : WalletAdvertiser) {identity : PublicKey}
    (hI : a.identity = some identity) {ads : List AdvertisementData} (hne : ads ≠ [])
    (hacc : ∀ ad ∈ ads, ad.Accepted) (i : Nat) (msg : String) :
    a.create ads ≠ .error (.invalidEntry i msg) := by
  rw [create_eq_of_checked a hI hne hacc]
  cases houts : signedOutputs a identity ads with
  | error e =>
    obtain ⟨x, -, hx⟩ := mapM_eq_error houts
    rintro ⟨⟩
    exact signedOutput_ne_invalidEntry a identity _ _ i msg hx
  | ok outs =>
    dsimp only [Except.bind]
    cases a.wallet.createAction ⟨createDescription, [], outs⟩ <;>
      simp [Except.mapError, Except.map]

/-- Creating fails at the first entry that is not accepted, before anything is signed. -/
theorem create_eq_error_of_first (a : WalletAdvertiser) {identity : PublicKey}
    (hI : a.identity = some identity) {ads : List AdvertisementData} {i : Nat}
    (hi : i < ads.length) (hrefused : ¬ ads[i].Accepted)
    (hbefore : ∀ j (hj : j < ads.length), j < i → ads[j].Accepted) :
    ∃ msg, a.create ads = .error (.invalidEntry i msg) := by
  obtain ⟨msg, hmsg⟩ : ∃ msg, bareNameFor ads[i] = .error msg := by
    cases h : bareNameFor ads[i] with
    | error msg => exact ⟨msg, rfl⟩
    | ok bare => exact absurd ((bareNameFor_isOk_iff _).mp ⟨bare, h⟩) hrefused
  have hchecks : (ads.zipIdx.mapM fun (ad, i) =>
      (bareNameFor ad).mapError (AdvertiserError.invalidEntry i)) =
      .error (.invalidEntry i msg) := by
    refine mapM_eq_error_of_first _ i (by simpa using hi) (fun j hj hji => ?_) ?_
    · have hj' : j < ads.length := by simpa using hj
      simp [bareNameFor_eq_ok (hbefore j hj' hji), Except.mapError]
    · simp [hmsg, Except.mapError]
  have hempty : ads.isEmpty = false :=
    List.isEmpty_eq_false_iff.mpr (List.ne_nil_of_length_pos (by omega))
  refine ⟨msg, ?_⟩
  unfold WalletAdvertiser.create
  simp only [WalletAdvertiser.identityFor, hI, hempty, hchecks, bind, Except.bind, if_false,
    Bool.false_eq_true]

/-- **Created advertisements read back.** For an initialized advertiser and a nonempty list of
entries: creating refuses an entry exactly when one is not accepted. When all are, the wallet is
asked for one transaction with one output per entry, in order, each worth the configured
amount and reading back as the advertisement of the entry's protocol, the advertiser's identity,
its URI and the entry's full name; the bundle goes to the distinct topics of the protocols in
the order first met. The exception is a signing failure, which the signer checks for but no
wallet reaches; creating then fails. -/
theorem create_parses_back (a : WalletAdvertiser) {identity : PublicKey}
    (hI : a.identity = some identity) {ads : List AdvertisementData} (hne : ads ≠ []) :
    ((∃ i msg, a.create ads = .error (.invalidEntry i msg)) ↔ ∃ ad ∈ ads, ¬ ad.Accepted) ∧
    ((∀ ad ∈ ads, ad.Accepted) →
      (∃ req : ActionRequest, req.description = createDescription ∧ req.inputs = [] ∧
        List.Forall₂ (fun ad out => out.satoshis = a.config.outputSatoshis ∧
          a.parse out.lockingScript =
            .ok ⟨ad.protocol, identity.toHex, a.config.advertisableUri, ad.fullName, none, none⟩)
          ads req.outputs ∧
        a.create ads = ((a.wallet.createAction req).mapError .wallet).map fun r =>
          (⟨encode [r.1], (ads.map (·.protocol.topic)).eraseDups⟩, { a with wallet := r.2 })) ∨
      (∃ ad ∈ ads, SigningFails a.wallet.keys ad.protocol a.config.advertisableUri) ∧
        ∃ e, a.create ads = .error e) := by
  refine ⟨⟨fun ⟨i, msg, h⟩ => ?_, fun hrefused => ?_⟩, fun hacc => ?_⟩
  · -- an error naming an entry means some entry is refused
    by_contra hall
    push Not at hall
    exact create_ne_invalidEntry a hI hne hall i msg h
  · obtain ⟨i, hi, hnot, hbefore⟩ := exists_first_not hrefused
    obtain ⟨msg, h⟩ := create_eq_error_of_first a hI hi hnot hbefore
    exact ⟨i, msg, h⟩
  · refine (create_eq_of_accepted a hI hne hacc).imp ?_ id
    rintro ⟨req, hdesc, hinputs, hrel, hcreate⟩
    refine ⟨req, hdesc, hinputs, forall₂_imp_of_mem ?_ hrel, hcreate⟩
    rintro ad had _ ⟨tok, hsign, rfl⟩
    refine ⟨rfl, ?_⟩
    have hread :=
      (decodeAdvertisement_signToken hsign (validate_fullName_of_accepted (hacc ad had))).2
    simp only [WalletAdvertiser.parse, WalletAdvertiser.identityFor, hI, bind, Except.bind, hread,
      fullName_bareName]

/-- An initialized advertiser over the wallet everybody can hold. -/
def issuingAdvertiser : WalletAdvertiser :=
  { config := { advertisableUri := "https://overlay.example.com" }
    wallet := ⟨ProtoWallet.anyone, false, []⟩
    identity := some ProtoWallet.anyone.identityKey }

/-- Entries with and without their prefix, one of them a name that repeats the prefix. -/
def issuedEntries : List AdvertisementData :=
  [⟨.ship, "tm_payments"⟩, ⟨.slap, "payments"⟩, ⟨.ship, "tm_tm_x"⟩]

theorem create_parses_back_issued :
    issuingAdvertiser.identity = some ProtoWallet.anyone.identityKey ∧ issuedEntries ≠ [] ∧
      (∀ ad ∈ issuedEntries, ad.Accepted) ∧
      ((∃ req : ActionRequest, req.description = createDescription ∧ req.inputs = [] ∧
        List.Forall₂ (fun ad out => out.satoshis = 1 ∧
          issuingAdvertiser.parse out.lockingScript = .ok ⟨ad.protocol,
            ProtoWallet.anyone.identityKey.toHex, "https://overlay.example.com", ad.fullName,
            none, none⟩) issuedEntries req.outputs ∧
        issuingAdvertiser.create issuedEntries =
          ((issuingAdvertiser.wallet.createAction req).mapError .wallet).map fun r =>
            (⟨encode [r.1], ["tm_ship", "tm_slap"]⟩, { issuingAdvertiser with wallet := r.2 })) ∨
      (∃ ad ∈ issuedEntries, SigningFails ProtoWallet.anyone ad.protocol
        "https://overlay.example.com") ∧
        ∃ e, issuingAdvertiser.create issuedEntries = .error e) := by
  have hne : issuedEntries ≠ [] := List.cons_ne_nil _ _
  have hacc : ∀ ad ∈ issuedEntries, ad.Accepted := by
    simp only [issuedEntries, List.mem_cons, List.not_mem_nil, or_false, forall_eq_or_imp,
      forall_eq]
    refine ⟨?_, ?_, ?_⟩ <;> decide
  exact ⟨rfl, hne, hacc, (create_parses_back issuingAdvertiser rfl hne).2 hacc⟩

end Advertiser

end ShipSlap
