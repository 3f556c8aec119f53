import ShipSlap.Advertiser.Bundle
import ShipSlap.Advertiser.Config
import ShipSlap.Json.Basic
import ShipSlap.Key.Wallet
/-!
What the host of an advertiser provides besides keys: a wallet that builds transactions, and
a resolver that asks the lookup services of the overlay network.

The wallet here numbers the transactions it builds 1, 2, and so on: the id of the n-th is 28
zero bytes and then n in four bytes, most significant first, and its outputs are exactly those
requested. It keeps every request it served, and it can be told to refuse; a refused request
is neither numbered nor kept.

The resolver here answers as it was last told to, and keeps every call.
-/
namespace ShipSlap.Advertiser

/-- An output a transaction is to spend. -/
structure ActionInput where
  outpoint : Outpoint
  /-- the bundle holding the transaction of the output -/
  sourceBundle : Bytes
  /-- the key derivation that unlocks the output -/
  unlocking : DerivationContext
  description : String

/-- An output a transaction is to create. -/
structure ActionOutput where
  lockingScript : Bytes
  satoshis : Nat
  description : String

/-- A request for a transaction. -/
structure ActionRequest where
  description : String
  inputs : List ActionInput
  outputs : List ActionOutput

/-- A wallet that builds transactions: its keys, whether it refuses, and the requests it
served, in order. -/
structure ActionWallet where
  keys : ProtoWallet
  refusing : Bool := false
  served : List ActionRequest := []

/-- Builds the transaction a request asks for, numbered after those already built. -/
def ActionWallet.createAction (w : ActionWallet) (req : ActionRequest) :
    Except WalletError (LedgerTransaction × ActionWallet) :=
  if w.refusing then .error (.actionFailed "wallet refused")
  else
    let tx : LedgerTransaction :=
      ⟨Txid.ofIndex (w.served.length + 1), req.outputs.map fun o => ⟨o.satoshis, o.lockingScript⟩⟩
    .ok (tx, { w with served := w.served ++ [req] })

/-- An output a resolver reports: the bundle whose subject holds it, and its index there. -/
structure ResolverOutput where
  bundle : Bytes
  outputIndex : Nat

/-- What a resolver answers: a list of outputs, or a value of another form. -/
inductive ResolverAnswer where
  | outputList (outputs : List ResolverOutput)
  | freeform (result : Json)

/-- Why a resolver gave no answer. -/
inductive ResolverError where
  | noHosts (service : String)
  | transport (reason : String)

/-- The text of a resolver error. -/
def ResolverError.message : ResolverError → String
  | .noHosts service => "No hosts found for " ++ service
  | .transport reason => "Resolver transport failed: " ++ reason

/-- How a resolver is told to answer. -/
inductive ResolverReply where
  /-- fail to reach the network -/
  | fail
  /-- find no host for the service -/
  | noHosts
  /-- never answer -/
  | hang
  | freeform (result : Json)
  | outputs (list : List ResolverOutput)

/-- A call to a resolver: the lookup service, the query and the network. -/
structure ResolverCall where
  service : String
  query : Json
  network : Network

/-- A resolver that answers as it was last told to, with the calls made to it. -/
structure ScriptedResolver where
  reply : ResolverReply := .fail
  calls : List ResolverCall := []

/-- Answers a call; `none` when no answer ever comes. -/
def ScriptedResolver.query (r : ScriptedResolver) (call : ResolverCall) :
    Option (Except ResolverError ResolverAnswer) × ScriptedResolver :=
  let answer := match r.reply with
    | .fail => some (.error (.transport "unreachable"))
    | .noHosts => some (.error (.noHosts call.service))
    | .hang => none
    | .freeform result => some (.ok (.freeform result))
    | .outputs list => some (.ok (.outputList list))
  (answer, { r with calls := r.calls ++ [call] })

end ShipSlap.Advertiser
