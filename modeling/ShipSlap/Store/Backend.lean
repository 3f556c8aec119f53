import ShipSlap.Store.Memory
/-!
The store behind a lookup service: the memory store, or a backend that cannot be reached.
An unreachable backend fails every read and write, never answers its connectivity probe, and
accepts the request to build indexes.
-/
namespace ShipSlap.Store

/-- A record store as a lookup service sees it. -/
inductive StoreBackend where
  | memory (store : MemoryStore)
  | unreachable (reason : String)

namespace StoreBackend

/-- Stores an entry at time `now`. -/
def store (b : StoreBackend) (e : RecordEntry) (now : Nat) : Except StoreError StoreBackend :=
  match b with
  | .memory s => .ok (.memory (s.store e now))
  | .unreachable r => .error (.unavailable r)

/-- Removes the record at an outpoint, if any. -/
def delete (b : StoreBackend) (o : Outpoint) : Except StoreError StoreBackend :=
  match b with
  | .memory s => .ok (.memory (s.delete o))
  | .unreachable r => .error (.unavailable r)

/-- The outpoints of the records matching a query, ordered and windowed. -/
def find (b : StoreBackend) (q : RecordQuery) : Except StoreError (List Outpoint) :=
  match b with
  | .memory s => .ok (s.find q)
  | .unreachable r => .error (.unavailable r)

/-- Builds the indexes. -/
def ensureIndexes : StoreBackend → StoreBackend
  | .memory s => .memory s.ensureIndexes
  | b => b

/-- Whether the connectivity probe answers at all. -/
def answersProbe : StoreBackend → Bool
  | .memory _ => true
  | .unreachable _ => false

end StoreBackend

end ShipSlap.Store
