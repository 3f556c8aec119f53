import ShipSlap.Protocol
/-!
What a lookup service says about itself: its name, a one-line description, its version, and
its documentation in Markdown.
-/
namespace ShipSlap.Lookup

/-- The static description of a lookup service. -/
structure ServiceMetadata where
  name : String
  shortDescription : String
  version : String
  deriving Repr, DecidableEq

/-- The version the services report. -/
def serviceVersion : String := "0.1.0"

/-- The description of a protocol's lookup service. -/
def metadata : Protocol → ServiceMetadata
  | .ship => ⟨"SHIP Lookup Service", "Provides lookup capabilities for SHIP tokens.", serviceVersion⟩
  | .slap => ⟨"SLAP Lookup Service", "Provides lookup capabilities for SLAP tokens.", serviceVersion⟩

/-- The Markdown documentation of the host lookup service. -/
def shipDocumentation : String :=
  String.intercalate "\n" [
    "# SHIP Lookup Service",
    "",
    "Answers `ls_ship` questions about hosts that advertise the topics they",
    "track (Service Host Interconnect Protocol).",
    "",
    "## Query",
    "",
    "Either the string `\"findAll\"` or an object:",
    "",
    "| Field | Type | Meaning |",
    "|-------|------|---------|",
    "| `findAll` | boolean | ignore filters, page over every record |",
    "| `domain` | string | exact advertised URI |",
    "| `topics` | string[] | any of these `tm_` topics |",
    "| `identityKey` | string | compressed identity key, hex |",
    "| `limit` | integer >= 0 | page size, 0 or absent for all |",
    "| `skip` | integer >= 0 | records to skip |",
    "| `sortOrder` | `\"asc\"` \\| `\"desc\"` | by admission time, default `\"desc\"` |",
    "",
    "## Answer",
    "",
    "`\x7b\"type\": \"output-list\", \"outputs\": [\x7b\"txid\": \"...\", \"outputIndex\": 0\x7d]\x7d`",
    ""]

/-- The Markdown documentation of the service lookup service. -/
def slapDocumentation : String :=
  String.intercalate "\n" [
    "# SLAP Lookup Service",
    "",
    "Answers `ls_slap` questions about hosts that advertise the lookup services",
    "they provide (Service Lookup Availability Protocol).",
    "",
    "## Query",
    "",
    "Either the string `\"findAll\"` or an object:",
    "",
    "| Field | Type | Meaning |",
    "|-------|------|---------|",
    "| `findAll` | boolean | ignore filters, page over every record |",
    "| `domain` | string | exact advertised URI |",
    "| `services` | string[] | any of these `ls_` services (alias: `topics`) |",
    "| `identityKey` | string | compressed identity key, hex |",
    "| `limit` | integer >= 0 | page size, 0 or absent for all |",
    "| `skip` | integer >= 0 | records to skip |",
    "| `sortOrder` | `\"asc\"` \\| `\"desc\"` | by admission time, default `\"desc\"` |",
    "",
    "## Answer",
    "",
    "`\x7b\"type\": \"output-list\", \"outputs\": [\x7b\"txid\": \"...\", \"outputIndex\": 0\x7d]\x7d`",
    ""]

/-- The Markdown documentation of a protocol's lookup service. -/
def documentation : Protocol → String
  | .ship => shipDocumentation
  | .slap => slapDocumentation

end ShipSlap.Lookup
