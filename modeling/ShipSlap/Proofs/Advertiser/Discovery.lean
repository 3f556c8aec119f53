import Mathlib
import ShipSlap.Proofs.Advertiser.Issuance
import ShipSlap.Proofs.Advertiser.Lifecycle
/-!
Finding advertisements. An initialized advertiser asks the resolver once, on the protocol's
lookup service, for the outputs of its identity key, and reads each output it is answered with
as an advertisement, keeping those of the protocol.

Main statement: `findAll_reports_resolver_outputs`. Finding never fails and makes exactly that
one call. When the resolver answers a list of outputs, the advertisements found are those the
outputs carry, in the resolver's order, each output kept exactly when it reads as an
advertisement of the protocol (`Reported`); every other answer, and none, finds nothing. An
advertisement found carries the bundle and the index of its output, and its identity key is the
hexadecimal of the identity field of the token in that output (`Carries`). Nothing compares it
with the advertiser's identity: the resolver alone decides whose advertisements come back.

`advertisementOfOutput_eq_ok` says when an output reads as an advertisement and which one.
-/
namespace ShipSlap.Advertiser

/-- The advertisement `ad` is the one the output `o` carries: the subject of the bundle has the
output, whose script is a token; the identity key is the hexadecimal of the token's identity
field, and the bundle and the index are the output's. -/
def Carries (o : ResolverOutput) (ad : Advertisement) : Prop :=
  ∃ subject out token, subjectTransaction o.bundle = .ok subject ∧
    subject.output? o.outputIndex = some out ∧ PushDrop.decodeToken out.lockingScript = .ok token ∧
    ad.identityKey = Bytes.toHex (token.fields.getD 1 []) ∧ ad.beef = some o.bundle ∧
    ad.outputIndex = some o.outputIndex

/-- The advertisements of protocol `p` reported from a list of outputs, in order: an output is
kept when it reads as an advertisement of `p`, and passed over otherwise. -/
inductive Reported (p : Protocol) : List ResolverOutput → List Advertisement → Prop
  | nil : Reported p [] []
  | keep {o : ResolverOutput} {outs : List ResolverOutput} {ad : Advertisement}
      {ads : List Advertisement} :
      advertisementOfOutput o = .ok ad → ad.protocol = p → Reported p outs ads →
      Reported p (o :: outs) (ad :: ads)
  | skip {o : ResolverOutput} {outs : List ResolverOutput} {ads : List Advertisement} :
      (∀ ad, advertisementOfOutput o = .ok ad → ad.protocol ≠ p) → Reported p outs ads →
      Reported p (o :: outs) ads

/-! ## One output -/

/-- A script reads as an advertisement exactly when it is a token with the fields of one and a
valid name. -/
theorem decodeAdvertisement_eq_ok {script : Bytes} {ad : Advertisement} :
    decodeAdvertisement script = .ok ad ↔
      ∃ token fields, PushDrop.decodeToken script = .ok token ∧
        AdvertisementFields.ofFields token.fields = .ok fields ∧
        Name.validate fields.fullName = .ok () ∧
        ad = ⟨fields.protocol, fields.identityKey, fields.domain, fields.fullName, none, none⟩ := by
  unfold decodeAdvertisement
  cases ht : PushDrop.decodeToken script with
  | error e => simp [bind, Except.bind, Except.mapError]
  | ok token =>
    cases hf : AdvertisementFields.ofFields token.fields with
    | error e => simp [hf, bind, Except.bind, Except.mapError]
    | ok fields =>
      -- the name is checked last
      cases hn : Name.validate fields.fullName with
      | error r =>
        simp [hf, hn, bind, Except.bind, Except.mapError, throw, throwThe, MonadExceptOf.throw]
      | ok u => simp [hf, hn, bind, Except.bind, Except.mapError, pure, Except.pure, eq_comm]

/-- **What an output reads as.** An output reads as an advertisement exactly when the subject of
its bundle has the output and the output's script reads as one; the advertisement then carries
the bundle and the index. -/
theorem advertisementOfOutput_eq_ok {o : ResolverOutput} {ad : Advertisement} :
    advertisementOfOutput o = .ok ad ↔
      ∃ subject out ad', subjectTransaction o.bundle = .ok subject ∧
        subject.output? o.outputIndex = some out ∧ decodeAdvertisement out.lockingScript = .ok ad' ∧
        ad = { ad' with beef := some o.bundle, outputIndex := some o.outputIndex } := by
  unfold advertisementOfOutput
  cases hs : subjectTransaction o.bundle with
  | error e => simp [bind, Except.bind, Except.mapError]
  | ok subject =>
    cases ho : subject.output? o.outputIndex with
    | none =>
      simp [ho, bind, Except.bind, Except.mapError, throw, throwThe, MonadExceptOf.throw]
    | some out =>
      cases hd : decodeAdvertisement out.lockingScript with
      | error e => simp [ho, hd, bind, Except.bind, Except.mapError]
      | ok ad' => simp [ho, hd, bind, Except.bind, Except.mapError, pure, Except.pure, eq_comm]

/-- An advertisement read from an output is carried by it, with the identity field of its token
as the identity key. -/
theorem carries_of_advertisementOfOutput {o : ResolverOutput} {ad : Advertisement}
    (h : advertisementOfOutput o = .ok ad) : Carries o ad := by
  obtain ⟨subject, out, ad', hs, ho, hd, rfl⟩ := Iff.mp advertisementOfOutput_eq_ok h
  obtain ⟨token, fields, ht, hf, -, rfl⟩ := Iff.mp decodeAdvertisement_eq_ok hd
  exact ⟨subject, out, token, hs, ho, ht, AdvertisementFields.identityKey_ofFields hf, rfl, rfl⟩

/-! ## The list -/

/-- Reading the outputs and keeping those of `p` reports them. -/
theorem reported_filterMap (p : Protocol) (outs : List ResolverOutput) :
    Reported p outs (outs.filterMap fun o =>
      match advertisementOfOutput o with
      | .ok ad => if ad.protocol = p then some ad else none
      | .error _ => none) := by
  induction outs with
  | nil => exact .nil
  | cons o outs ih =>
    rw [List.filterMap_cons]
    cases h : advertisementOfOutput o with
    | error e =>
      -- an output that does not read is passed over
      exact .skip (fun ad had => by rw [h] at had; cases had) ih
    | ok ad =>
      by_cases hp : ad.protocol = p
      · simp only [hp, if_true]
        exact .keep h hp ih
      · simp only [hp, if_false]
        exact .skip (fun ad' had => by rw [h] at had; cases had; exact hp) ih

/-- Every advertisement reported is of `p` and carried by one of the outputs. -/
theorem Reported.mem {p : Protocol} {outs : List ResolverOutput} {ads : List Advertisement}
    (h : Reported p outs ads) {ad : Advertisement} (had : ad ∈ ads) :
    ad.protocol = p ∧ ∃ o ∈ outs, Carries o ad := by
  induction h with
  | nil => cases had
  | keep hread hp _ ih =>
    rcases List.mem_cons.mp had with rfl | had
    · exact ⟨hp, _, List.mem_cons_self .., carries_of_advertisementOfOutput hread⟩
    · obtain ⟨hp', o, ho, hc⟩ := ih had
      exact ⟨hp', o, List.mem_cons_of_mem _ ho, hc⟩
  | skip _ _ ih =>
    obtain ⟨hp', o, ho, hc⟩ := ih had
    exact ⟨hp', o, List.mem_cons_of_mem _ ho, hc⟩

/-! ## Finding -/

namespace WalletAdvertiser

/-- **Finding reports what the resolver answers.** An initialized advertiser with identity `I`
finds without failing and asks the resolver exactly once, on the lookup service of `p`, for the
outputs of `I`. From a list of outputs it reports, in order, the advertisements of `p` that they
carry, each with its output's bundle and index and the identity key its token carries; from any
other answer, or none, nothing. -/
theorem findAll_reports_resolver_outputs (a : WalletAdvertiser) (p : Protocol) {I : PublicKey}
    (hI : a.identity = some I) :
    ∃ ads, a.findAll p = (.ok ads, { a with resolver := { a.resolver with
        calls := a.resolver.calls ++
          [⟨p.lookupService, .obj [("identityKey", .str I.toHex)], a.config.network⟩] } }) ∧
      (∀ outs, a.resolver.reply = .outputs outs →
        Reported p outs ads ∧ ∀ ad ∈ ads, ad.protocol = p ∧ ∃ o ∈ outs, Carries o ad) ∧
      ((∀ outs, a.resolver.reply ≠ .outputs outs) → ads = []) := by
  have hid : a.identityFor .findAllAdvertisements = .ok I := Iff.mpr identityFor_eq_ok hI
  unfold findAll
  rw [hid]
  -- the one call is made whatever the answer; only a list of outputs is read
  cases hr : a.resolver.reply with
  | outputs outs =>
    simp only [ScriptedResolver.query, hr]
    have hrep := reported_filterMap p outs
    refine ⟨_, rfl, fun outs' h => ?_, fun h => absurd rfl (h outs)⟩
    cases h
    exact ⟨hrep, fun ad had => hrep.mem had⟩
  | _ =>
    simp only [ScriptedResolver.query, hr]
    refine ⟨[], rfl, fun outs h => ?_, fun _ => rfl⟩
    cases h

/-- The issuing advertiser finds the advertisements of SHIP with one call for the key of its
wallet. -/
theorem findAll_issuingAdvertiser :
    issuingAdvertiser.identity = some ProtoWallet.anyone.identityKey ∧
      ∃ ads, issuingAdvertiser.findAll .ship = (.ok ads, { issuingAdvertiser with
          resolver := { issuingAdvertiser.resolver with
            calls := issuingAdvertiser.resolver.calls ++
              [⟨Protocol.ship.lookupService,
                .obj [("identityKey", .str ProtoWallet.anyone.identityKey.toHex)],
                issuingAdvertiser.config.network⟩] } }) ∧
        (∀ outs, issuingAdvertiser.resolver.reply = .outputs outs →
          Reported .ship outs ads ∧ ∀ ad ∈ ads, ad.protocol = .ship ∧ ∃ o ∈ outs, Carries o ad) ∧
        ((∀ outs, issuingAdvertiser.resolver.reply ≠ .outputs outs) → ads = []) :=
  ⟨rfl, findAll_reports_resolver_outputs issuingAdvertiser .ship rfl⟩

end WalletAdvertiser

end ShipSlap.Advertiser
