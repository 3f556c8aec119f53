import ShipSlap.Advertiser.Bundle
import ShipSlap.Key.Wallet
import ShipSlap.Name.Error
import ShipSlap.Text.Quote
import ShipSlap.Token.PushDrop
/-!
Why an advertiser refuses an operation, and the texts it gives.
-/
namespace ShipSlap.Advertiser

/-- The operations that need an initialized advertiser. -/
inductive Operation where
  | createAdvertisements
  | parseAdvertisement
  | findAllAdvertisements
  | revokeAdvertisements
  deriving DecidableEq, Repr

/-- The name of an operation. -/
def Operation.name : Operation → String
  | .createAdvertisements => "create_advertisements"
  | .parseAdvertisement => "parse_advertisement"
  | .findAllAdvertisements => "find_all_advertisements"
  | .revokeAdvertisements => "revoke_advertisements"

/-- Why an advertiser refuses an operation. -/
inductive AdvertiserError where
  | notInitialized (op : Operation)
  | alreadyInitialized
  | invalidAdvertisableUri (uri : String) (reason : NameError)
  | invalidEntry (index : Nat) (reason : String)
  | missingOutput (txid : Txid) (index : Nat)
  | noAdvertisements
  | invalidName (name : String) (reason : NameError)
  | codec (e : TokenError)
  | wallet (e : WalletError)
  | bundle (e : BundleError)

/-- The text of an advertiser error. -/
def AdvertiserError.message : AdvertiserError → String
  | .notInitialized op => "Advertiser not initialized: call init() before " ++ op.name
  | .alreadyInitialized => "Advertiser already initialized"
  | .invalidAdvertisableUri uri reason =>
    "Advertisable URI " ++ Text.quote uri ++ " rejected: " ++ reason.message
  | .invalidEntry index reason =>
    "Invalid advertisement at index " ++ toString index ++ ": " ++ reason
  | .missingOutput txid index =>
    "Transaction " ++ txid.toHex ++ " has no output " ++ toString index
  | .noAdvertisements => "No advertisements given"
  | .invalidName name reason =>
    "Advertised name " ++ Text.quote name ++ " is invalid: " ++ reason.message
  | .codec e => "Token codec error: " ++ e.message
  | .wallet e => "Wallet error: " ++ e.message
  | .bundle e => "Bundle error: " ++ e.message

end ShipSlap.Advertiser
