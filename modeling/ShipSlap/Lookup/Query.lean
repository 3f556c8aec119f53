import ShipSlap.Json.Decode
import ShipSlap.Lookup.Error
import ShipSlap.Store.Record
/-!
Lookup queries. A query is JSON in one of two dialects: the text `findAll`, or an object with
the optional members `findAll`, `domain`, `topics` (also spelled `services`), `identityKey`,
`limit`, `skip` and `sortOrder`; other members are ignored. Members are read in name order,
and a member given twice (`topics` and `services`) is refused. `limit` and `skip` must be
whole numbers from zero up to 2^64 - 1, written as integers or as floating point numbers
without a fraction; `null` leaves them out.
-/
namespace ShipSlap.Lookup

open ShipSlap.Store

/-- A checked structured query. -/
structure StructuredQuery where
  /-- ignore the filters and page over everything -/
  findAll : Bool := false
  domain : Option String := none
  topics : Option (List String) := none
  identityKey : Option String := none
  pagination : Pagination := {}

/-- The store query of the filters and window. -/
def StructuredQuery.toRecordQuery (q : StructuredQuery) : RecordQuery :=
  ⟨q.domain, q.topics, q.identityKey, q.pagination⟩

/-- A lookup query. -/
inductive LookupQuery where
  /-- the text `findAll`: every record, default window -/
  | legacy
  | structured (q : StructuredQuery)

/-- The members of a structured query as read, before their checks, with the names of the
fields already read. -/
structure RawQuery where
  findAll : Option Bool := none
  domain : Option String := none
  topics : Option (List String) := none
  identityKey : Option String := none
  limit : Option Json := none
  skip : Option Json := none
  sortOrder : Option String := none
  seen : List String := []

/-- The field a member name stands for, if any. -/
def fieldOf : String → Option String
  | "findAll" => some "findAll"
  | "domain" => some "domain"
  | "topics" => some "topics"
  | "services" => some "topics"
  | "identityKey" => some "identityKey"
  | "limit" => some "limit"
  | "skip" => some "skip"
  | "sortOrder" => some "sortOrder"
  | _ => none

/-- A value that `null` leaves out. -/
def present : Json → Option Json
  | .null => none
  | j => some j

/-- Reads one member into the raw query. -/
def RawQuery.read (raw : RawQuery) (m : String × Json) : Except DecodeError RawQuery :=
  match fieldOf m.1 with
  | none => .ok raw
  | some f =>
    if raw.seen.contains f then .error (.duplicateField f)
    else
      let raw := { raw with seen := f :: raw.seen }
      match f with
      | "findAll" => return { raw with findAll := ← Json.asOption Json.asBool m.2 }
      | "domain" => return { raw with domain := ← Json.asOption Json.asString m.2 }
      | "topics" =>
        return { raw with
          topics := ← Json.asOption (fun j => do (← Json.asArray j).mapM Json.asString) m.2 }
      | "identityKey" => return { raw with identityKey := ← Json.asOption Json.asString m.2 }
      | "limit" => return { raw with limit := present m.2 }
      | "skip" => return { raw with skip := present m.2 }
      | _ => return { raw with sortOrder := ← Json.asOption Json.asString m.2 }

/-- Reads a window count: an unsigned integer; a negative integer or number is refused as
negative; a floating point number without a fraction up to 2^64 is taken, 2^64 itself
counting as 2^64 - 1; anything else is not an integer. -/
def nonNegativeInteger (field : String) : Json → Except QueryError Nat
  | .num (.nat n) => .ok n
  | .num (.negInt _) => .error (.negative field)
  | .num (.float f) =>
    if f.lt (Binary64.zero false) then .error (.negative field)
    else if f.isInteger && f.le (Binary64.ofNat (Nat.pow 2 64)) then .ok (f.toNatSat 64)
    else .error (.notAnInteger field)
  | _ => .error (.notAnInteger field)

/-- Checks a raw query: the limit, then the skip, then the sort order. -/
def RawQuery.check (raw : RawQuery) : Except QueryError StructuredQuery := do
  let limit ← match raw.limit with
    | some j => some <$> nonNegativeInteger "limit" j
    | none => pure none
  let skip ← match raw.skip with
    | some j => nonNegativeInteger "skip" j
    | none => pure 0
  let order ← match raw.sortOrder with
    | some s => (SortOrder.parse s).mapError fun _ => .invalidSortOrder s
    | none => pure .desc
  return ⟨raw.findAll.getD false, raw.domain, raw.topics, raw.identityKey, ⟨limit, skip, order⟩⟩

/-- Reads a structured query from the members of an object. -/
def parseStructured (members : List (String × Json)) : Except QueryError StructuredQuery := do
  let raw ← ((Json.sortedMembers members).foldlM RawQuery.read {}).mapError
    fun e => .malformed e.message
  raw.check

/-- Reads a query: `null` is missing, the text `findAll` is the legacy dialect, another text
an unsupported literal, an object a structured query, and anything else malformed. -/
def LookupQuery.parse : Json → Except LookupError LookupQuery
  | .null => .error .missingQuery
  | .str s => if s = "findAll" then .ok .legacy else .error (.query (.unsupportedLiteral s))
  | .obj members => (parseStructured members).map .structured |>.mapError .query
  | other => .error (.query (.malformed ("expected an object, got " ++ other.render)))

end ShipSlap.Lookup
