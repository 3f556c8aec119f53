import ShipSlap.Settings
/-!
The settings of a lookup service: how long its store may take to answer the connectivity probe
when the service starts, in whole seconds (five unless configured). They are the section
`lookup` of a settings file.
-/
namespace ShipSlap.Lookup

open ShipSlap.Toml

/-- The settings of a lookup service. -/
structure LookupConfig where
  storageTimeoutSecs : Nat := 5
  deriving Repr, DecidableEq

/-- Reads the settings of a lookup service from its section. -/
def LookupConfig.ofSection (s : Section) : Option LookupConfig := do
  return { storageTimeoutSecs := ← s.field "storage_timeout_secs" asCount 5 }

/-- Reads the settings of a lookup service from the text of a settings file. -/
def LookupConfig.ofToml : String → Except ConfigError LookupConfig :=
  readSettings fun doc => sectionOf doc "lookup" ["storage_timeout_secs"] LookupConfig.ofSection {}

/-- The lookup settings of the file at a path. -/
def LookupConfig.load : String → Except ConfigError LookupConfig :=
  loadSettings fun doc => sectionOf doc "lookup" ["storage_timeout_secs"] LookupConfig.ofSection {}

end ShipSlap.Lookup
