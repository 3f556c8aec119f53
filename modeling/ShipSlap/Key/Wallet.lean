import ShipSlap.Key.Derivation
/-!
A wallet over a root private key: it derives child keys for derivation contexts, signs with them
and checks the signatures of counterparties. Its own child key for a context is the root's
private child towards the counterparty's key; the counterparty's child key, as the wallet sees
it, is the counterparty's public key moved by the same shared tweak. So a signature made by one
wallet verifies at the other (the derivation is symmetric in the shared secret).
-/
namespace ShipSlap

/-- Why a wallet request failed. -/
inductive WalletError where
  | crypto (e : CryptoError)
  | unsupported (operation : String)
  | actionFailed (reason : String)
  deriving Repr, DecidableEq

/-- The wording of a wallet error. -/
def WalletError.message : WalletError → String
  | .crypto e => "Crypto error: " ++ e.message
  | .unsupported op => "Unsupported wallet operation: " ++ op
  | .actionFailed reason => "Action failed: " ++ reason

/-- A wallet over a root private key. -/
structure ProtoWallet where
  root : PrivateKey

namespace ProtoWallet

/-- The wallet everybody can hold: root scalar one. -/
def anyone : ProtoWallet :=
  ⟨PrivateKey.anyone⟩

/-- The wallet's identity: its root public key. -/
def identityKey (w : ProtoWallet) : PublicKey :=
  w.root.publicKey

/-- The public key of a counterparty. -/
def counterpartyKey (w : ProtoWallet) : Counterparty → PublicKey
  | .anyone => PrivateKey.anyone.publicKey
  | .self => w.root.publicKey
  | .other key => key

/-- The wallet's own child private key for a context. -/
def derivePrivate (w : ProtoWallet) (ctx : DerivationContext) : Except CryptoError PrivateKey := do
  let invoice ← ctx.invoiceNumber
  w.root.deriveChild (w.counterpartyKey ctx.counterparty) invoice

/-- The child public key for a context: the wallet's own (`forSelf`) or the counterparty's. -/
def getPublicKey (w : ProtoWallet) (ctx : DerivationContext) (forSelf : Bool) :
    Except WalletError PublicKey :=
  (if forSelf then (w.derivePrivate ctx).map PrivateKey.publicKey
   else do
     let invoice ← ctx.invoiceNumber
     (w.counterpartyKey ctx.counterparty).deriveChild w.root invoice).mapError .crypto

/-- The DER signature of `data` by the wallet's child key for the context. -/
def createSignature (w : ProtoWallet) (data : Bytes) (ctx : DerivationContext) :
    Except WalletError Bytes :=
  ((w.derivePrivate ctx).map (·.sign data)).mapError .crypto

/-- Whether `sig` over `data` was made by the counterparty's child key for the context. -/
def verifySignature (w : ProtoWallet) (data sig : Bytes) (ctx : DerivationContext) :
    Except WalletError Bool :=
  (w.getPublicKey ctx false).map (·.verify data sig)

end ProtoWallet

end ShipSlap
