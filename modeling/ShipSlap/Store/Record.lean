import ShipSlap.Ledger
import ShipSlap.Text.Quote
/-!
Advertisement records and the queries over them. A record is an admitted advertisement stamped
with its creation time. A query is a conjunction of optional filters (domain, any of a list of
topics, identity key) with a window: results ordered by creation, oldest or newest first,
then `skip` dropped and at most `limit` kept, a limit of zero meaning no limit.
-/
namespace ShipSlap.Store

/-- Why a store could not serve a request. -/
inductive StoreError where
  /-- the backend cannot be reached -/
  | unavailable (reason : String)
  /-- the backend rejected or failed the request -/
  | backend (reason : String)
  deriving Repr, DecidableEq

/-- The wording of a store error. -/
def StoreError.message : StoreError → String
  | .unavailable r => "Store unavailable: " ++ r
  | .backend r => "Store backend error: " ++ r

/-- What admission hands to the store. -/
structure RecordEntry where
  outpoint : Outpoint
  /-- compressed identity key, lowercase hexadecimal -/
  identityKey : String
  domain : String
  /-- the full prefixed topic or service name -/
  topic : String
  deriving DecidableEq

/-- A stored advertisement: an entry stamped with its creation time in milliseconds. -/
structure AdvertisementRecord where
  outpoint : Outpoint
  identityKey : String
  domain : String
  topic : String
  createdAt : Nat
  deriving DecidableEq

/-- Stamps an entry with its creation time. -/
def AdvertisementRecord.ofEntry (e : RecordEntry) (createdAt : Nat) : AdvertisementRecord :=
  ⟨e.outpoint, e.identityKey, e.domain, e.topic, createdAt⟩

/-- The order of results by creation time. -/
inductive SortOrder where
  | asc
  | desc
  deriving Repr, DecidableEq

/-- The name of an order. -/
def SortOrder.name : SortOrder → String
  | .asc => "asc"
  | .desc => "desc"

/-- Reads an order from exactly `asc` or `desc`; the error says what was given. -/
def SortOrder.parse (s : String) : Except String SortOrder :=
  if s = "asc" then .ok .asc
  else if s = "desc" then .ok .desc
  else .error ("sortOrder must be \"asc\" or \"desc\", got " ++ Text.quote s)

/-- A window over an ordered result: how many to skip, at most how many to keep (none or zero
for all), and the order. -/
structure Pagination where
  limit : Option Nat := none
  skip : Nat := 0
  sortOrder : SortOrder := .desc
  deriving Repr, DecidableEq

/-- Applies the window to an already ordered list: skip, then keep at most the limit. -/
def Pagination.window {α : Type} (p : Pagination) (xs : List α) : List α :=
  match p.limit with
  | some (n + 1) => (xs.drop p.skip).take (n + 1)
  | _ => xs.drop p.skip

/-- A conjunctive filter with a window. An absent filter lets everything through; an empty
topic list matches nothing. -/
structure RecordQuery where
  domain : Option String := none
  topics : Option (List String) := none
  identityKey : Option String := none
  pagination : Pagination := {}

/-- Whether a record passes every filter of the query. -/
def RecordQuery.matches (q : RecordQuery) (r : AdvertisementRecord) : Bool :=
  (q.domain.all (· == r.domain)) && (q.topics.all (·.contains r.topic)) &&
    (q.identityKey.all (· == r.identityKey))

end ShipSlap.Store
