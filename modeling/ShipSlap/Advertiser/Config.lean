import ShipSlap.Settings
/-!
The settings of an advertiser: the URI it advertises, the network its resolver asks, how long
one resolver query may take in whole seconds (thirty unless configured), and the value of each
advertisement output in satoshis (one unless configured). They are the section `advertiser` of
a settings file.
-/
namespace ShipSlap.Advertiser

open ShipSlap.Toml

/-- The network a resolver asks. -/
inductive Network where
  | mainnet
  | testnet
  | localNet
  deriving DecidableEq, Repr

/-- The name of a network in settings. -/
def Network.name : Network → String
  | .mainnet => "mainnet"
  | .testnet => "testnet"
  | .localNet => "local"

/-- The networks by name. -/
def Network.all : List Network := [.mainnet, .testnet, .localNet]

/-- The settings of an advertiser. -/
structure AdvertiserConfig where
  advertisableUri : String := ""
  network : Network := .mainnet
  resolverTimeoutSecs : Nat := 30
  outputSatoshis : Nat := 1
  deriving DecidableEq, Repr

/-- The names of the fields, in order. -/
def AdvertiserConfig.fieldNames : List String :=
  ["advertisable_uri", "network", "resolver_timeout_secs", "output_satoshis"]

/-- Reads the settings of an advertiser from its section. -/
def AdvertiserConfig.ofSection (s : Section) : Option AdvertiserConfig := do
  return {
    advertisableUri := ← s.field "advertisable_uri" asText ""
    network := ← s.field "network" (asChoice (Network.all.map fun n => (n.name, n))) .mainnet
    resolverTimeoutSecs := ← s.field "resolver_timeout_secs" asCount 30
    outputSatoshis := ← s.field "output_satoshis" asCount 1 }

/-- Reads the settings of an advertiser from the text of a settings file. -/
def AdvertiserConfig.ofToml : String → Except ConfigError AdvertiserConfig :=
  readSettings fun doc =>
    sectionOf doc "advertiser" AdvertiserConfig.fieldNames AdvertiserConfig.ofSection {}

/-- The advertiser settings of the file at a path. -/
def AdvertiserConfig.load : String → Except ConfigError AdvertiserConfig :=
  loadSettings fun doc =>
    sectionOf doc "advertiser" AdvertiserConfig.fieldNames AdvertiserConfig.ofSection {}

end ShipSlap.Advertiser
