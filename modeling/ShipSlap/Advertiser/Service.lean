import ShipSlap.Advertiser.Error
import ShipSlap.Advertiser.Host
import ShipSlap.Linkage
import ShipSlap.Name.Topic
import ShipSlap.Name.Uri
import ShipSlap.Token.Fields
/-!
The advertiser of a host: it publishes the host's SHIP and SLAP advertisements, finds them on
the overlay network, and revokes them.

It starts uninitialized; initializing checks the advertisable URI and takes the wallet's
identity key, once. Every other operation needs it initialized.

* Creating advertisements checks every entry's name first (with or without the protocol's
  prefix, but not with the other protocol's), then signs a token for each and asks the wallet
  for one transaction with an output per advertisement.
* Reading an advertisement decodes a locking script and checks the advertised name; whose key
  the token is linked to is not checked.
* Finding advertisements asks the lookup service of a protocol for the outputs of this
  identity. An unanswered or failed question finds nothing; outputs that do not read, or that
  advertise under the other protocol, are passed over.
* Revoking advertisements checks that every entry carries its bundle and output index, then
  asks the wallet for one transaction per entry spending its output, and bundles them.
-/
namespace ShipSlap.Advertiser

/-- An advertisement to publish: its protocol and name. -/
structure AdvertisementData where
  protocol : Protocol
  name : String

/-- The description of a transaction that creates advertisements. -/
def createDescription : String := "SHIP/SLAP Advertisement Issuance"

/-- The description of a transaction that revokes an advertisement. -/
def revokeDescription : String := "Revoke SHIP/SLAP advertisement"

/-- The bare name to advertise for an entry, or why the entry is refused. -/
def bareNameFor (ad : AdvertisementData) : Except String String :=
  match Protocol.all.find? fun p => p != ad.protocol && ad.name.startsWith p.namePrefix with
  | some other =>
    .error (Text.quote ad.name ++ " carries the " ++ other.tag ++ " prefix but is advertised under " ++
      ad.protocol.tag)
  | none =>
    let bare := ad.protocol.bareName ad.name
    match Name.validate (ad.protocol.fullName bare) with
    | .error e => .error e.message
    | .ok () => .ok bare

/-- The topics of the protocols involved, each once, in the order first met. -/
def bundleTopics (ps : List Protocol) : List String :=
  ps.foldl (fun ts p => if ts.contains p.topic then ts else ts ++ [p.topic]) []

/-- Reads an advertisement from a locking script and checks its name. -/
def decodeAdvertisement (script : Bytes) : Except AdvertiserError Advertisement := do
  let token ← (PushDrop.decodeToken script).mapError .codec
  let fields ← (AdvertisementFields.ofFields token.fields).mapError .codec
  let name := fields.fullName
  match Name.validate name with
  | .error reason => throw (.invalidName name reason)
  | .ok () => return ⟨fields.protocol, fields.identityKey, fields.domain, name, none, none⟩

/-- Reads the advertisement a resolver output points to. -/
def advertisementOfOutput (o : ResolverOutput) : Except AdvertiserError Advertisement := do
  let subject ← (subjectTransaction o.bundle).mapError .bundle
  match subject.output? o.outputIndex with
  | none => throw (.missingOutput subject.txid o.outputIndex)
  | some out =>
    let ad ← decodeAdvertisement out.lockingScript
    return { ad with beef := some o.bundle, outputIndex := some o.outputIndex }

/-- The request for the transaction revoking an advertisement, spending `outpoint` of the
subject of `bundle`. -/
def revokeRequest (ad : Advertisement) (bundle : Bytes) (outpoint : Outpoint) : ActionRequest :=
  ⟨revokeDescription,
    [⟨outpoint, bundle, linkageContext ad.protocol .anyone,
      "Revoke " ++ ad.topicOrService ++ " advertisement"⟩], []⟩

/-- What a revocation spends: the bundle and output index an advertisement carries. -/
def spendOf (index : Nat) (ad : Advertisement) : Except AdvertiserError (Bytes × Nat) := do
  let bundle ← match ad.beef.filter (!·.isEmpty) with
    | some b => pure b
    | none => throw (.invalidEntry index "advertisement carries no bundle")
  match ad.outputIndex with
  | some i => return (bundle, i)
  | none => throw (.invalidEntry index "advertisement carries no output index")

/-- Builds the revoking transactions one after another; the wallet keeps those built before a
failure. -/
def spendAll (w : ActionWallet) :
    List (Advertisement × Bytes × Nat) → Except AdvertiserError (List LedgerTransaction) × ActionWallet
  | [] => (.ok [], w)
  | (ad, bundle, index) :: rest =>
    match subjectTransaction bundle with
    | .error e => (.error (.bundle e), w)
    | .ok subject =>
      match w.createAction (revokeRequest ad bundle ⟨subject.txid, index⟩) with
      | .error e => (.error (.wallet e), w)
      | .ok (tx, w') =>
        let (txs, w'') := spendAll w' rest
        (txs.map (tx :: ·), w'')

/-- An advertiser: its settings, wallet and resolver, and its identity once initialized. -/
structure WalletAdvertiser where
  config : AdvertiserConfig
  wallet : ActionWallet
  resolver : ScriptedResolver := {}
  identity : Option PublicKey := none

namespace WalletAdvertiser

/-- Whether the advertiser has been initialized. -/
def isInitialized (a : WalletAdvertiser) : Bool := a.identity.isSome

/-- The identity key, which `op` needs. -/
def identityFor (a : WalletAdvertiser) (op : Operation) : Except AdvertiserError PublicKey :=
  match a.identity with
  | some k => .ok k
  | none => .error (.notInitialized op)

/-- Initializes the advertiser: once only, and only with an advertisable URI. -/
def init (a : WalletAdvertiser) : Except AdvertiserError WalletAdvertiser :=
  if a.isInitialized then .error .alreadyInitialized
  else match Name.validateUri a.config.advertisableUri with
    | .error reason => .error (.invalidAdvertisableUri a.config.advertisableUri reason)
    | .ok _ => .ok { a with identity := some a.wallet.keys.identityKey }

/-- The output advertising `bare` under protocol `p`: a token signed for `identity`. -/
def signedOutput (a : WalletAdvertiser) (identity : PublicKey) (p : Protocol) (bare : String) :
    Except AdvertiserError ActionOutput :=
  match signToken a.wallet.keys identity p a.config.advertisableUri bare with
  | .error (.wallet e) => .error (.wallet e)
  | .error (.codec e) => .error (.codec e)
  | .ok token =>
    .ok ⟨token.script, a.config.outputSatoshis, p.tag ++ " advertisement of " ++ p.fullName bare⟩

/-- Publishes advertisements in one transaction. -/
def create (a : WalletAdvertiser) (ads : List AdvertisementData) :
    Except AdvertiserError (TaggedBundle × WalletAdvertiser) := do
  let identity ← a.identityFor .createAdvertisements
  if ads.isEmpty then throw .noAdvertisements
  let bares ← ads.zipIdx.mapM fun (ad, i) => (bareNameFor ad).mapError (.invalidEntry i)
  let outputs ← (ads.zip bares).mapM fun (ad, bare) => a.signedOutput identity ad.protocol bare
  let (tx, wallet) ← (a.wallet.createAction ⟨createDescription, [], outputs⟩).mapError .wallet
  return (⟨encode [tx], bundleTopics (ads.map (·.protocol))⟩, { a with wallet })

/-- Reads an advertisement from a locking script. -/
def parse (a : WalletAdvertiser) (script : Bytes) : Except AdvertiserError Advertisement := do
  let _ ← a.identityFor .parseAdvertisement
  decodeAdvertisement script

/-- The advertisements of protocol `p` that its lookup service reports for this identity. -/
def findAll (a : WalletAdvertiser) (p : Protocol) :
    Except AdvertiserError (List Advertisement) × WalletAdvertiser :=
  match a.identityFor .findAllAdvertisements with
  | .error e => (.error e, a)
  | .ok identity =>
    let call : ResolverCall :=
      ⟨p.lookupService, .obj [("identityKey", .str identity.toHex)], a.config.network⟩
    let (answer, resolver) := a.resolver.query call
    let a := { a with resolver }
    match answer with
    | some (.ok (.outputList outputs)) =>
      (.ok (outputs.filterMap fun o =>
        match advertisementOfOutput o with
        | .ok ad => if ad.protocol = p then some ad else none
        | .error _ => none), a)
    | _ => (.ok [], a)

/-- Revokes advertisements, one spending transaction each, bundled together. -/
def revoke (a : WalletAdvertiser) (ads : List Advertisement) :
    Except AdvertiserError TaggedBundle × WalletAdvertiser :=
  let checked : Except AdvertiserError (List (Advertisement × Bytes × Nat)) := do
    let _ ← a.identityFor .revokeAdvertisements
    if ads.isEmpty then throw .noAdvertisements
    ads.zipIdx.mapM fun (ad, i) => do
      let (bundle, index) ← spendOf i ad
      return (ad, bundle, index)
  match checked with
  | .error e => (.error e, a)
  | .ok spends =>
    let (txs, wallet) := spendAll a.wallet spends
    (txs.map fun txs => ⟨encode txs, bundleTopics (ads.map (·.protocol))⟩, { a with wallet })

end WalletAdvertiser

end ShipSlap.Advertiser
