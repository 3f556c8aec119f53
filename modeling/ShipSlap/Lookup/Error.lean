import ShipSlap.Linkage
import ShipSlap.Store.Record
/-!
Why a lookup or an admission fails: errors of a query, of the lookup service, and the reasons an
admitted output is not stored.
-/
namespace ShipSlap.Lookup

/-- Why a structured query is refused; values are never clamped. -/
inductive QueryError where
  | malformed (reason : String)
  | negative (field : String)
  | notAnInteger (field : String)
  | invalidSortOrder (given : String)
  | unsupportedLiteral (given : String)
  deriving Repr, DecidableEq

/-- The wording of a query error. -/
def QueryError.message : QueryError → String
  | .malformed r => "Malformed query: " ++ r
  | .negative f => "Query." ++ f ++ " must be a non-negative number"
  | .notAnInteger f => "Query." ++ f ++ " must be an integer"
  | .invalidSortOrder s => "Query.sortOrder must be \"asc\" or \"desc\", got " ++ Text.quote s
  | .unsupportedLiteral s => "Unsupported query literal: " ++ Text.quote s

/-- The text of a whole number of seconds as a duration is written in diagnostics: `5s`, and
`0ns` for none. -/
def durationText (secs : Nat) : String :=
  if secs = 0 then "0ns" else toString secs ++ "s"

/-- Why a lookup, a spend or an eviction fails. -/
inductive LookupError where
  | unsupportedService (service : String)
  | missingQuery
  | query (e : QueryError)
  | store (e : Store.StoreError)
  | storeTimeout (secs : Nat)
  deriving Repr, DecidableEq

/-- The wording of a lookup error. -/
def LookupError.message : LookupError → String
  | .unsupportedService s => "Lookup service not supported: " ++ s
  | .missingQuery => "A valid query must be provided"
  | .query e => "Invalid query: " ++ e.message
  | .store e => "Storage error: " ++ e.message
  | .storeTimeout secs => "Storage did not respond within " ++ durationText secs

/-- Why an admitted output is not stored. -/
inductive RejectionReason where
  | decode (e : TokenError)
  | protocolMismatch (expected found : Protocol)
  | invalidName (reason : String)
  | notLinked
  | linkage (e : LinkageError)
  | store (e : Store.StoreError)
  deriving Repr, DecidableEq

/-- The wording of a rejection. -/
def RejectionReason.message : RejectionReason → String
  | .decode e => "Undecodable token: " ++ e.message
  | .protocolMismatch expected found =>
    "Protocol mismatch: expected " ++ expected.tag ++ ", found " ++ found.tag
  | .invalidName r => "Invalid topic or service name: " ++ r
  | .notLinked => "Identity is not linked to the signature and locking key"
  | .linkage e => "Linkage check failed: " ++ e.message
  | .store e => "Storage error: " ++ e.message

end ShipSlap.Lookup
