import ShipSlap.Lookup.Config
import ShipSlap.Lookup.Docs
import ShipSlap.Lookup.Query
import ShipSlap.Name.Topic
import ShipSlap.Store.Backend
import ShipSlap.Token.Fields
/-!
The lookup service of one protocol. It admits advertisement outputs that the overlay admitted
under the protocol's topic, forgets outputs that are spent or evicted, and answers lookup
questions addressed to the protocol's lookup service.

An output is admitted when its token decodes with at least four fields, its advertisement
fields read, its protocol is the service's, its full name is a valid topic or service name,
it carries the signature as a fifth field, and the signature links the identity to the
locking key. It is then stored under its full name, stamped with the service's clock.
-/
namespace ShipSlap.Lookup

open ShipSlap.Store

/-- An output the overlay admitted under a topic. -/
structure AdmissionEvent where
  outpoint : Outpoint
  topic : String
  lockingScript : Bytes

/-- What admission did with an output. -/
inductive AdmissionOutcome where
  /-- stored, or stored again -/
  | admitted
  /-- admitted under another topic, which is not this service's concern -/
  | ignored
  | rejected (reason : RejectionReason)
  deriving Repr, DecidableEq

/-- Whether the output was stored. -/
def AdmissionOutcome.isAdmitted : AdmissionOutcome → Bool
  | .admitted => true
  | _ => false

/-- A lookup request addressed to one service. -/
structure LookupQuestion where
  service : String
  query : Json

/-- Reads a question from JSON: an object with a text `service` and any `query` (absent
meaning `null`), members read in name order; or an array of the service and the query. -/
def LookupQuestion.ofJson : Json → Except DecodeError LookupQuestion
  | .obj members => do
    let step := fun (acc : Option String × Json) (m : String × Json) =>
      match m.1 with
      | "service" => do pure (some (← Json.asString m.2), acc.2)
      | "query" => pure (acc.1, m.2)
      | _ => pure acc
    match ← (Json.sortedMembers members).foldlM step (none, .null) with
    | (some service, query) => pure ⟨service, query⟩
    | (none, _) => throw (.missingField "service")
  | .arr items =>
    match items with
    | [] => .error (.invalidLength 0 "struct LookupQuestion with 2 elements")
    | [s] => do pure ⟨← Json.asString s, .null⟩
    | [s, q] => do pure ⟨← Json.asString s, q⟩
    | s :: _ => do
      let _ ← Json.asString s
      throw (.invalidLength items.length "fewer elements in array")
  | j => .error (.invalidType j.unexpected "struct LookupQuestion")

/-- A lookup service: its protocol, its store, the clock that stamps records, and its
settings. -/
structure LookupService where
  protocol : Protocol
  backend : StoreBackend
  clock : ManualClock
  config : LookupConfig := {}

namespace LookupService

/-- The checks of admission for protocol `p`, in order, and the entry they lead to: the output,
the identity as hexadecimal, the domain, and the full name. -/
def admissionEntry (p : Protocol) (e : AdmissionEvent) : Except RejectionReason RecordEntry := do
  let token ← (PushDrop.decodeToken e.lockingScript).mapError .decode
  let fields ← (AdvertisementFields.ofFields token.fields).mapError .decode
  if fields.protocol ≠ p then throw (.protocolMismatch p fields.protocol)
  let full := fields.fullName
  (Name.validate full).mapError fun err => .invalidName (full ++ ": " ++ err.message)
  let _ ← (PushDrop.requireFields token 5).mapError .decode
  let linked ← (verifyLinkage ProtoWallet.anyone token.lockingKey.toHex token.fields).mapError
    .linkage
  if !linked then throw .notLinked
  pure ⟨e.outpoint, fields.identityKey, fields.domain, full⟩

/-- The checks of admission, and the store they lead to. -/
def checkAdmission (svc : LookupService) (e : AdmissionEvent) :
    Except RejectionReason StoreBackend := do
  let entry ← admissionEntry svc.protocol e
  (svc.backend.store entry svc.clock.now.toNat).mapError .store

/-- Admits an output: ignored under another topic, else stored or rejected with the reason. -/
def receive (svc : LookupService) (e : AdmissionEvent) : LookupService × AdmissionOutcome :=
  if e.topic ≠ svc.protocol.topic then (svc, .ignored)
  else match svc.checkAdmission e with
    | .ok b => ({ svc with backend := b }, .admitted)
    | .error r => (svc, .rejected r)

/-- Forgets a spent or evicted output. -/
def forget (svc : LookupService) (o : Outpoint) : Except LookupError LookupService := do
  let b ← (svc.backend.delete o).mapError .store
  return { svc with backend := b }

/-- Answers a question: a missing query first, then the service name, then the query. The
legacy query pages over everything by the default window, a structured query with `findAll`
by its own window, and any other structured query filters. -/
def lookup (svc : LookupService) (q : LookupQuestion) : Except LookupError (List Outpoint) := do
  if let .null := q.query then throw .missingQuery
  if q.service ≠ svc.protocol.lookupService then throw (.unsupportedService q.service)
  let recordQuery := match ← LookupQuery.parse q.query with
    | .legacy => {}
    | .structured sq => if sq.findAll then { pagination := sq.pagination } else sq.toRecordQuery
  (svc.backend.find recordQuery).mapError .store

/-- Starts the service: the store must answer its probe within the configured time, and its
indexes are then built. -/
def start (svc : LookupService) : LookupService × Except LookupError Unit :=
  if svc.backend.answersProbe then ({ svc with backend := svc.backend.ensureIndexes }, .ok ())
  else (svc, .error (.storeTimeout svc.config.storageTimeoutSecs))

end LookupService

end ShipSlap.Lookup
