import Mathlib
import ShipSlap.Advertiser.Concurrent
import ShipSlap.Proofs.Advertiser.Issuance
/-!
Revoking advertisements. The advertiser first checks that every entry carries a bundle and an
output index, then builds the spending transactions one entry after another and stops at the
first it cannot build; the wallet keeps the transactions built before that one. What is proved:

1. `spendAll_cons`, `spendAll_error`, `spendAll_ok`: one spend either stops the building with
   the wallet as it was or has the wallet serve its request; so a failed building has served
   the requests of the entries before the first whose bundle does not read (none when the
   wallet refuses), and a successful one the requests of all entries.
2. `revoke_eq_error_of_first`, `revoke_eq_spendAll`: revoking fails at the first entry that
   carries no bundle or no output index, leaving the advertiser as it was; once every entry
   carries both, it is building the spends.
3. `revoke_eq_error_served`, `failure_wallet_effect`: what a failed call leaves behind. A
   failed creation leaves the advertiser as it was, and so does a failed check of a revocation;
   a revocation that fails while building leaves the transactions of the entries before the
   failing one.
4. `revoke_unlocks_created`: every output an advertiser creates is spent, when revoked by an
   advertiser with the same keys, by an input whose unlocking key is the output's locking key.
-/
namespace ShipSlap

/-- What revoking an advertisement spends: the bundle it carries, when not empty, and its
output index. -/
def Advertisement.spend? (ad : Advertisement) : Option (Bytes × Nat) := do
  let bundle ← ad.beef.filter (!·.isEmpty)
  let index ← ad.outputIndex
  return (bundle, index)

namespace Advertiser

theorem map_eq_error_iff {α β ε : Type} {f : α → β} {x : Except ε α} {e : ε} :
    x.map f = .error e ↔ x = .error e := by
  cases x <;> simp [Except.map]

/-! ## The wallet -/

namespace ActionWallet

theorem createAction_eq_ok {w w' : ActionWallet} {req : ActionRequest} {tx : LedgerTransaction}
    (h : w.createAction req = .ok (tx, w')) :
    w.refusing = false ∧ w' = { w with served := w.served ++ [req] } := by
  unfold createAction at h
  split at h
  · cases h
  · cases h
    exact ⟨by simpa using ‹¬w.refusing = true›, rfl⟩

theorem refusing_of_createAction_eq_error {w : ActionWallet} {req : ActionRequest}
    {err : WalletError} (h : w.createAction req = .error err) : w.refusing = true := by
  unfold createAction at h
  split at h
  · assumption
  · cases h

end ActionWallet

/-! ## Building the spends -/

/-- The request for the transaction revoking `ad` by spending output `index` of the subject of
`bundle`, when the bundle reads. -/
def spendRequest? : Advertisement × Bytes × Nat → Option ActionRequest
  | (ad, bundle, index) =>
    match subjectTransaction bundle with
    | .ok subject => some (revokeRequest ad bundle ⟨subject.txid, index⟩)
    | .error _ => none

/-- The request revoking an entry asks the wallet for: spending what the entry carries, when
its bundle reads. -/
def revokeRequest? (ad : Advertisement) : Option ActionRequest :=
  ad.spend?.bind fun s => spendRequest? (ad, s)

theorem revokeRequest?_eq (ad : Advertisement) :
    revokeRequest? ad = ad.spend?.bind fun s => spendRequest? (ad, s) := rfl

theorem spendAll_nil (w : ActionWallet) : spendAll w [] = (.ok [], w) := rfl

/-- **One spend.** Its bundle does not read, or the wallet refuses its request, and building
stops with the wallet as it was; or the wallet serves its request and building goes on. -/
theorem spendAll_cons (w : ActionWallet) (s : Advertisement × Bytes × Nat)
    (rest : List (Advertisement × Bytes × Nat)) :
    (spendRequest? s = none ∧ ∃ err, spendAll w (s :: rest) = (.error (.bundle err), w)) ∨
    (∃ req, spendRequest? s = some req ∧ w.refusing = true ∧
      ∃ err, spendAll w (s :: rest) = (.error (.wallet err), w)) ∨
    (∃ req tx, spendRequest? s = some req ∧ w.refusing = false ∧
      spendAll w (s :: rest) =
        ((spendAll { w with served := w.served ++ [req] } rest).1.map (tx :: ·),
          (spendAll { w with served := w.served ++ [req] } rest).2)) := by
  obtain ⟨ad, bundle, index⟩ := s
  cases hs : subjectTransaction bundle with
  | error err => exact .inl ⟨by simp [spendRequest?, hs], err, by simp [spendAll, hs]⟩
  | ok subject =>
    have hreq : spendRequest? (ad, bundle, index) =
        some (revokeRequest ad bundle ⟨subject.txid, index⟩) := by
      simp [spendRequest?, hs]
    cases hc : w.createAction (revokeRequest ad bundle ⟨subject.txid, index⟩) with
    | error err =>
      exact .inr (.inl ⟨_, hreq, ActionWallet.refusing_of_createAction_eq_error hc, err,
        by simp [spendAll, hs, hc]⟩)
    | ok r =>
      obtain ⟨tx, w'⟩ := r
      obtain ⟨hrefusing, rfl⟩ := ActionWallet.createAction_eq_ok hc
      exact .inr (.inr ⟨_, tx, hreq, hrefusing, by simp [spendAll, hs, hc]⟩)

/-- **A failed building.** It failed at some spend `n`: the wallet has served the requests of
the spends before it, which all read, and spend `n` either has a bundle that does not read or
is the first, refused by the wallet. -/
theorem spendAll_error : ∀ {w w' : ActionWallet} {spends : List (Advertisement × Bytes × Nat)}
    {e : AdvertiserError}, spendAll w spends = (.error e, w') →
    ∃ n, ∃ hn : n < spends.length, (∀ j (hj : j < n), (spendRequest? spends[j]).isSome) ∧
      w' = { w with served := w.served ++ (spends.take n).filterMap spendRequest? } ∧
      ((spendRequest? spends[n] = none ∧ ∃ err, e = .bundle err) ∨
        (w.refusing = true ∧ n = 0 ∧ ∃ err, e = .wallet err))
  | _, _, [], _, h => by simp [spendAll_nil] at h
  | w, w', s :: rest, e, h => by
    rcases spendAll_cons w s rest with ⟨hnone, err, hs⟩ | ⟨req, -, hrefusing, err, hs⟩ |
      ⟨req, tx, hreq, hrefusing, hs⟩
    · -- the bundle of the first spend does not read
      rw [hs] at h
      cases h
      exact ⟨0, by simp, by simp, by simp, .inl ⟨hnone, err, rfl⟩⟩
    · -- the wallet refuses the first spend
      rw [hs] at h
      cases h
      exact ⟨0, by simp, by simp, by simp, .inr ⟨hrefusing, rfl, err, rfl⟩⟩
    · -- the first spend is served, and the rest fails
      rw [hs] at h
      have hrest : spendAll { w with served := w.served ++ [req] } rest = (.error e, w') := by
        obtain ⟨h1, h2⟩ := Prod.mk.inj h
        exact Prod.ext (Iff.mp map_eq_error_iff h1) h2
      obtain ⟨n, hn, hsome, rfl, hfail⟩ := spendAll_error hrest
      refine ⟨n + 1, by simpa using hn, fun j hj => ?_, ?_, ?_⟩
      · cases j with
        | zero => simp [hreq]
        | succ j => simpa using hsome j (by omega)
      · simp [hreq, List.take_succ_cons]
      · -- the wallet does not refuse later, having served the first spend
        rcases hfail with hfail | ⟨hrefusing', -⟩
        · exact .inl (by simpa using hfail)
        · simp [hrefusing] at hrefusing'

/-- **A successful building.** With a wallet that does not refuse and bundles that all read,
the wallet serves the request of every spend, in order, one transaction each. -/
theorem spendAll_ok : ∀ (w : ActionWallet) (spends : List (Advertisement × Bytes × Nat)),
    w.refusing = false → (∀ s ∈ spends, (spendRequest? s).isSome) →
    ∃ txs : List LedgerTransaction, txs.length = spends.length ∧
      spendAll w spends = (.ok txs, { w with served := w.served ++ spends.filterMap spendRequest? })
  | w, [], _, _ => ⟨[], rfl, by simp [spendAll_nil]⟩
  | w, s :: rest, hw, hall => by
    rcases spendAll_cons w s rest with ⟨hnone, -⟩ | ⟨_, -, hrefusing, -⟩ |
      ⟨req, tx, hreq, -, hs⟩
    · simp [hnone] at hall
    · simp [hw] at hrefusing
    · -- the first spend is served, and by recursion so is the rest
      obtain ⟨txs, hlen, hrest⟩ := spendAll_ok { w with served := w.served ++ [req] } rest
        hw (fun s hs => hall s (List.mem_cons_of_mem _ hs))
      refine ⟨tx :: txs, by simp [hlen], ?_⟩
      rw [hs, hrest]
      simp [Except.map, hreq]

/-! ## Revoking -/

theorem spendOf_eq_ok {i : Nat} {ad : Advertisement} {s : Bytes × Nat} (h : ad.spend? = some s) :
    spendOf i ad = .ok s := by
  unfold Advertisement.spend? at h
  unfold spendOf
  cases hb : ad.beef.filter (!·.isEmpty) <;> cases hi : ad.outputIndex <;>
    simp_all [bind, Option.bind, pure, Except.bind, Except.pure]

theorem spendOf_eq_error (i : Nat) {ad : Advertisement} (h : ad.spend? = none) :
    ∃ msg, spendOf i ad = .error (.invalidEntry i msg) := by
  unfold Advertisement.spend? at h
  unfold spendOf
  cases hb : ad.beef.filter (!·.isEmpty) <;> cases hi : ad.outputIndex <;>
    simp_all [bind, Option.bind, pure, Except.bind, Except.pure, throw, throwThe,
      MonadExceptOf.throw]

/-- The spends of entries that all carry a bundle and an output index. -/
def spendsOf (ads : List Advertisement) : List (Advertisement × Bytes × Nat) :=
  ads.map fun ad => (ad, ad.spend?.getD ([], 0))

theorem spendsOf_eq (ads : List Advertisement) :
    spendsOf ads = ads.map fun ad => (ad, ad.spend?.getD ([], 0)) := rfl

theorem spendRequest?_spendsOf {ad : Advertisement} (h : ad.spend?.isSome) :
    spendRequest? (ad, ad.spend?.getD ([], 0)) = revokeRequest? ad := by
  obtain ⟨s, hs⟩ := Option.isSome_iff_exists.mp h
  simp [revokeRequest?_eq, hs]

/-- Revoking fails at the first entry that carries no bundle or no output index, and then the
advertiser is left as it was. -/
theorem revoke_eq_error_of_first (a : WalletAdvertiser) {identity : PublicKey}
    (hI : a.identity = some identity) {ads : List Advertisement} {i : Nat}
    (hi : i < ads.length) (hnone : ads[i].spend? = none)
    (hbefore : ∀ j (hj : j < ads.length), j < i → ads[j].spend?.isSome) :
    ∃ msg, a.revoke ads = (.error (.invalidEntry i msg), a) := by
  obtain ⟨msg, hmsg⟩ := spendOf_eq_error i hnone
  have hempty : ads.isEmpty = false :=
    List.isEmpty_eq_false_iff.mpr (List.ne_nil_of_length_pos (by omega))
  refine ⟨msg, ?_⟩
  unfold WalletAdvertiser.revoke
  simp only [WalletAdvertiser.identityFor, hI, hempty, bind, Except.bind, if_false,
    Bool.false_eq_true]
  -- the checks stop at entry `i`, after every entry before it has passed
  rw [mapM_eq_error_of_first _ i (by simpa using hi) (fun j hj hji => ?_) ?_]
  · simp [hmsg]
  · have hj' : j < ads.length := by simpa using hj
    obtain ⟨s, hs⟩ := Option.isSome_iff_exists.mp (hbefore j hj' hji)
    simp [spendOf_eq_ok hs, pure, Except.pure]

/-- Once every entry of a nonempty list carries a bundle and an output index, revoking is
building their spends: the advertiser keeps the wallet the building leaves, and what was built
goes into a bundle for the protocols' topics. -/
theorem revoke_eq_spendAll (a : WalletAdvertiser) {identity : PublicKey}
    (hI : a.identity = some identity) {ads : List Advertisement} (hne : ads ≠ [])
    (hall : ∀ ad ∈ ads, ad.spend?.isSome) :
    a.revoke ads = ((spendAll a.wallet (spendsOf ads)).1.map
      (fun txs => ⟨encode txs, bundleTopics (ads.map (·.protocol))⟩),
      { a with wallet := (spendAll a.wallet (spendsOf ads)).2 }) := by
  have hempty : ads.isEmpty = false := List.isEmpty_eq_false_iff.mpr hne
  unfold WalletAdvertiser.revoke
  simp only [WalletAdvertiser.identityFor, hI, hempty, bind, Except.bind, if_false,
    Bool.false_eq_true]
  -- every entry passes the checks, with the bundle and output index it carries
  rw [(mapM_zipIdx_eq_ok (fun ad had i => ?_) 0 : _ = Except.ok (spendsOf ads))]
  · rfl
  · obtain ⟨s, hs⟩ := Option.isSome_iff_exists.mp (hall ad had)
    simp [spendOf_eq_ok hs, hs, pure, Except.pure]

/-- A revocation whose entries all carry a bundle and an output index, and that fails, fails
while building, at some entry `n`: the wallet has served the requests of the entries before it,
whose bundles all read, and entry `n`'s bundle does not read, or it is the first and the wallet
refuses. -/
theorem revoke_eq_error_served (a : WalletAdvertiser) {identity : PublicKey}
    (hI : a.identity = some identity) {ads : List Advertisement} (hne : ads ≠ [])
    (hall : ∀ ad ∈ ads, ad.spend?.isSome) {e : AdvertiserError} {a' : WalletAdvertiser}
    (h : a.revoke ads = (.error e, a')) :
    ∃ n, ∃ hn : n < ads.length, (∀ j (hj : j < n), (revokeRequest? ads[j]).isSome) ∧
      a' = { a with wallet := { a.wallet with
        served := a.wallet.served ++ (ads.take n).filterMap revokeRequest? } } ∧
      ((revokeRequest? ads[n] = none ∧ ∃ err, e = .bundle err) ∨
        (a.wallet.refusing = true ∧ n = 0 ∧ ∃ err, e = .wallet err)) := by
  rw [revoke_eq_spendAll a hI hne hall] at h
  obtain ⟨h1, rfl⟩ := Prod.mk.inj h
  have hspend : spendAll a.wallet (spendsOf ads) =
      (.error e, (spendAll a.wallet (spendsOf ads)).2) :=
    Prod.ext (Iff.mp map_eq_error_iff h1) rfl
  obtain ⟨n, hn, hsome, hw, hfail⟩ := spendAll_error hspend
  have hlen : (spendsOf ads).length = ads.length := by simp [spendsOf_eq]
  -- the spends stand for the entries, request for request
  have hreq : ∀ j (hj : j < ads.length),
      spendRequest? (spendsOf ads)[j] = revokeRequest? ads[j] := fun j hj => by
    simpa [spendsOf_eq] using spendRequest?_spendsOf (hall _ (List.getElem_mem hj))
  have hlist : ((spendsOf ads).take n).filterMap spendRequest? =
      (ads.take n).filterMap revokeRequest? := by
    simp only [spendsOf_eq, ← List.map_take, List.filterMap_map]
    refine List.filterMap_congr fun ad had => ?_
    exact spendRequest?_spendsOf (hall ad (List.mem_of_mem_take had))
  refine ⟨n, by omega, fun j hj => ?_, by rw [hw, hlist], ?_⟩
  · rw [← hreq j (by omega)]
    exact hsome j hj
  · rwa [← hreq n (by omega)]

/-- **What a failed call leaves behind.** For an initialized advertiser: a failed creation
leaves it as it was, and one with a refused entry fails at the first refused entry. A
revocation with an entry that carries no bundle or no output index fails at the first such entry
and leaves it as it was. A revocation that fails while building fails at some entry `n`: the
wallet has served the requests of the entries before it, whose bundles all read, and entry
`n`'s bundle does not read, or it is the first and the wallet refuses. -/
theorem failure_wallet_effect (a : WalletAdvertiser) {identity : PublicKey}
    (hI : a.identity = some identity) :
    (∀ (ads : List AdvertisementData) e a', (Call.create ads).perform a = (.error e, a') →
      a' = a) ∧
    (∀ (ads : List AdvertisementData) i (hi : i < ads.length), ¬ ads[i].Accepted →
      (∀ j (hj : j < ads.length), j < i → ads[j].Accepted) →
      ∃ msg, a.create ads = .error (.invalidEntry i msg)) ∧
    (∀ (ads : List Advertisement) i (hi : i < ads.length), ads[i].spend? = none →
      (∀ j (hj : j < ads.length), j < i → ads[j].spend?.isSome) →
      ∃ msg, a.revoke ads = (.error (.invalidEntry i msg), a)) ∧
    (∀ (ads : List Advertisement), ads ≠ [] → (∀ ad ∈ ads, ad.spend?.isSome) →
      ∀ e a', a.revoke ads = (.error e, a') →
      ∃ n, ∃ hn : n < ads.length, (∀ j (hj : j < n), (revokeRequest? ads[j]).isSome) ∧
        a' = { a with wallet := { a.wallet with
          served := a.wallet.served ++ (ads.take n).filterMap revokeRequest? } } ∧
        ((revokeRequest? ads[n] = none ∧ ∃ err, e = .bundle err) ∨
          (a.wallet.refusing = true ∧ n = 0 ∧ ∃ err, e = .wallet err))) := by
  refine ⟨fun ads e a' h => ?_, fun ads i hi hrefused hbefore =>
    create_eq_error_of_first a hI hi hrefused hbefore, fun ads i hi hnone hbefore =>
    revoke_eq_error_of_first a hI hi hnone hbefore, fun ads hne hall e a' h =>
    revoke_eq_error_served a hI hne hall h⟩
  -- creating hands back an advertiser only when it succeeds
  cases hc : a.create ads with
  | ok r => simp [Call.perform, hc] at h
  | error e' =>
    simp only [Call.perform, hc, Prod.mk.injEq] at h
    exact h.2.symm

theorem failure_wallet_effect_issuing :
    issuingAdvertiser.identity = some ProtoWallet.anyone.identityKey ∧
    (∀ (ads : List AdvertisementData) e a',
      (Call.create ads).perform issuingAdvertiser = (.error e, a') → a' = issuingAdvertiser) ∧
    (∀ (ads : List AdvertisementData) i (hi : i < ads.length), ¬ ads[i].Accepted →
      (∀ j (hj : j < ads.length), j < i → ads[j].Accepted) →
      ∃ msg, issuingAdvertiser.create ads = .error (.invalidEntry i msg)) ∧
    (∀ (ads : List Advertisement) i (hi : i < ads.length), ads[i].spend? = none →
      (∀ j (hj : j < ads.length), j < i → ads[j].spend?.isSome) →
      ∃ msg, issuingAdvertiser.revoke ads = (.error (.invalidEntry i msg), issuingAdvertiser)) ∧
    (∀ (ads : List Advertisement), ads ≠ [] → (∀ ad ∈ ads, ad.spend?.isSome) →
      ∀ e a', issuingAdvertiser.revoke ads = (.error e, a') →
      ∃ n, ∃ hn : n < ads.length, (∀ j (hj : j < n), (revokeRequest? ads[j]).isSome) ∧
        a' = { issuingAdvertiser with wallet := { issuingAdvertiser.wallet with
          served := issuingAdvertiser.wallet.served ++ (ads.take n).filterMap revokeRequest? } } ∧
        ((revokeRequest? ads[n] = none ∧ ∃ err, e = .bundle err) ∨
          (issuingAdvertiser.wallet.refusing = true ∧ n = 0 ∧ ∃ err, e = .wallet err))) :=
  ⟨rfl, failure_wallet_effect issuingAdvertiser rfl⟩

/-! ## Revoking what was created -/

/-- With every entry carrying what it spends, bundles that all read and a wallet that does not
refuse, revoking has the wallet serve the request of every entry, in order. -/
theorem revoke_served (a : WalletAdvertiser) {identity : PublicKey}
    (hI : a.identity = some identity) {ads : List Advertisement} (hne : ads ≠ [])
    (hall : ∀ ad ∈ ads, (revokeRequest? ad).isSome) (hw : a.wallet.refusing = false) :
    (a.revoke ads).2.wallet.served = a.wallet.served ++ ads.filterMap revokeRequest? := by
  have hspend : ∀ ad ∈ ads, ad.spend?.isSome := fun ad had => by
    have := hall ad had
    rw [revokeRequest?_eq] at this
    cases h : ad.spend? <;> simp_all
  have hreq : ∀ ad ∈ ads, spendRequest? (ad, ad.spend?.getD ([], 0)) = revokeRequest? ad :=
    fun ad had => spendRequest?_spendsOf (hspend ad had)
  obtain ⟨txs, -, hbuild⟩ := spendAll_ok a.wallet (spendsOf ads) hw (by
    simp only [spendsOf_eq, List.mem_map]
    rintro _ ⟨ad, had, rfl⟩
    rw [hreq ad had]
    exact hall ad had)
  rw [revoke_eq_spendAll a hI hne hspend, hbuild]
  simp only [spendsOf_eq, List.filterMap_map]
  congr 1
  exact List.filterMap_congr fun ad had => hreq ad had

/-- The linkage key a signed token is locked to is the wallet's own key for its protocol. -/
theorem getPublicKey_lockingKey {w : ProtoWallet} {identity : PublicKey} {p : Protocol}
    {domain bare : String} {tok : SignedToken} (h : signToken w identity p domain bare = .ok tok) :
    w.getPublicKey (linkageContext p .anyone) true = .ok tok.lockingKey := by
  obtain ⟨c, hc, hkey, -⟩ := signToken_eq_ok h
  simp [ProtoWallet.getPublicKey, hc, hkey, Except.map, Except.mapError]

/-- **Created advertisements can be revoked.** For an initialized advertiser and a nonempty
list of accepted entries, creating asks for one output per entry. Each output reads back as an
advertisement of the entry's protocol, and any advertiser with the same keys that revokes it,
carrying a bundle whose subject is `subject` and an output index `index`, has the wallet build
one transaction whose one input spends output `index` of `subject` and unlocks with the key the
output is locked to. The exception is a signing failure, which the signer checks for but no
wallet reaches; creating then fails. -/
theorem revoke_unlocks_created (a : WalletAdvertiser) {identity : PublicKey}
    (hI : a.identity = some identity) {ads : List AdvertisementData} (hne : ads ≠ [])
    (hacc : ∀ ad ∈ ads, ad.Accepted) :
    (∃ req : ActionRequest,
      a.create ads = ((a.wallet.createAction req).mapError .wallet).map (fun r =>
        (⟨encode [r.1], (ads.map (·.protocol.topic)).eraseDups⟩, { a with wallet := r.2 })) ∧
      List.Forall₂ (fun ad out => ∃ key fields adv,
        PushDrop.decode out.lockingScript = .ok ⟨key, fields⟩ ∧
        decodeAdvertisement out.lockingScript = .ok adv ∧ adv.protocol = ad.protocol ∧
        ∀ b : WalletAdvertiser, b.wallet.keys = a.wallet.keys → b.identity.isSome →
          b.wallet.refusing = false →
        ∀ (bundle : Bytes) (index : Nat) (subject : LedgerTransaction), bundle ≠ [] →
          subjectTransaction bundle = .ok subject →
          ∃ inp : ActionInput,
            (b.revoke [{ adv with beef := some bundle, outputIndex := some index }]).2.wallet.served
              = b.wallet.served ++ [⟨revokeDescription, [inp], []⟩] ∧
            b.wallet.keys.getPublicKey inp.unlocking true = .ok key ∧
            inp.outpoint = ⟨subject.txid, index⟩) ads req.outputs) ∨
    (∃ ad ∈ ads, SigningFails a.wallet.keys ad.protocol a.config.advertisableUri) ∧
      ∃ e, a.create ads = .error e := by
  refine (create_eq_of_accepted a hI hne hacc).imp ?_ id
  rintro ⟨req, -, -, hrel, hcreate⟩
  refine ⟨req, hcreate, forall₂_imp_of_mem ?_ hrel⟩
  rintro ad had _ ⟨tok, hsign, rfl⟩
  obtain ⟨hdecode, hread⟩ :=
    decodeAdvertisement_signToken hsign (validate_fullName_of_accepted (hacc ad had))
  refine ⟨tok.lockingKey, tok.fields, _, hdecode, hread, rfl, ?_⟩
  intro b hkeys hb hw bundle index subject hbundle hsubject
  set adv : Advertisement := ⟨ad.protocol, identity.toHex, a.config.advertisableUri,
    ad.protocol.fullName (ad.protocol.bareName ad.name), some bundle, some index⟩ with hadv
  -- the advertisement read back carries what its revocation spends, and its bundle reads
  have hreq : revokeRequest? adv = some (revokeRequest adv bundle ⟨subject.txid, index⟩) := by
    have hspend : adv.spend? = some (bundle, index) := by
      have hfull : bundle.isEmpty = false := List.isEmpty_eq_false_iff.mpr hbundle
      simp [Advertisement.spend?, hadv, Option.filter_some, hfull, bind, Option.bind, pure]
    simp [revokeRequest?_eq, hspend, spendRequest?, hsubject]
  obtain ⟨identity', hI'⟩ := Option.isSome_iff_exists.mp hb
  refine ⟨⟨⟨subject.txid, index⟩, bundle, linkageContext ad.protocol .anyone,
    "Revoke " ++ adv.topicOrService ++ " advertisement"⟩, ?_, ?_, rfl⟩
  · rw [revoke_served b hI' (List.cons_ne_nil _ _) (by simp [hreq]) hw]
    simp only [List.filterMap_cons, hreq, List.filterMap_nil]
    rfl
  · rw [hkeys]
    exact getPublicKey_lockingKey hsign

theorem revoke_unlocks_created_issued :
    issuingAdvertiser.identity = some ProtoWallet.anyone.identityKey ∧ issuedEntries ≠ [] ∧
    (∀ ad ∈ issuedEntries, ad.Accepted) ∧
    ((∃ req : ActionRequest,
      issuingAdvertiser.create issuedEntries =
        ((issuingAdvertiser.wallet.createAction req).mapError .wallet).map (fun r =>
          (⟨encode [r.1], ["tm_ship", "tm_slap"]⟩, { issuingAdvertiser with wallet := r.2 })) ∧
      List.Forall₂ (fun ad out => ∃ key fields adv,
        PushDrop.decode out.lockingScript = .ok ⟨key, fields⟩ ∧
        decodeAdvertisement out.lockingScript = .ok adv ∧ adv.protocol = ad.protocol ∧
        ∀ b : WalletAdvertiser, b.wallet.keys = ProtoWallet.anyone → b.identity.isSome →
          b.wallet.refusing = false →
        ∀ (bundle : Bytes) (index : Nat) (subject : LedgerTransaction), bundle ≠ [] →
          subjectTransaction bundle = .ok subject →
          ∃ inp : ActionInput,
            (b.revoke [{ adv with beef := some bundle, outputIndex := some index }]).2.wallet.served
              = b.wallet.served ++ [⟨revokeDescription, [inp], []⟩] ∧
            b.wallet.keys.getPublicKey inp.unlocking true = .ok key ∧
            inp.outpoint = ⟨subject.txid, index⟩) issuedEntries req.outputs) ∨
    (∃ ad ∈ issuedEntries, SigningFails ProtoWallet.anyone ad.protocol
      "https://overlay.example.com") ∧ ∃ e, issuingAdvertiser.create issuedEntries = .error e) := by
  obtain ⟨hI, hne, hacc, -⟩ := create_parses_back_issued
  exact ⟨hI, hne, hacc, revoke_unlocks_created issuingAdvertiser hI hne hacc⟩

end Advertiser

end ShipSlap
