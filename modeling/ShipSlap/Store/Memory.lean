import ShipSlap.Store.Record
/-!
The record store held in memory. It keeps one record per outpoint, each with the insertion
sequence number of its last write, and a secondary index from `(domain, topic)` to the
outpoints of the live records with that domain and topic. Writes keep the index exact; a query
that pins the domain and a list of topics takes its candidates from the index once the indexes
have been built, and every other query scans all records. Either way the matches are ordered
by creation time, ties by sequence number, and then windowed.

The clock that stamps records is a settable 64-bit millisecond counter that wraps.
-/
namespace ShipSlap.Store

/-- A record with the sequence number of the write that stored it. -/
structure StoredRecord where
  record : AdvertisementRecord
  seq : Nat
  deriving DecidableEq

/-- The index key of a record. -/
abbrev DomainTopic := String × String

/-- The store: records in insertion order (one per outpoint), the secondary index, the next
sequence number, and whether the indexes have been built. -/
structure MemoryStore where
  records : List StoredRecord := []
  index : List (DomainTopic × List Outpoint) := []
  nextSeq : Nat := 0
  indexesReady : Bool := false

namespace MemoryStore

/-- The outpoints the index holds under a key. -/
def indexed (s : MemoryStore) (key : DomainTopic) : List Outpoint :=
  ((s.index.find? (·.1 == key)).map (·.2)).getD []

/-- The index with `o` added under `key`. -/
def indexInsert (index : List (DomainTopic × List Outpoint)) (key : DomainTopic)
    (o : Outpoint) : List (DomainTopic × List Outpoint) :=
  match index.find? (·.1 == key) with
  | some (_, os) =>
    index.map fun (k, v) => if k == key then (k, if os.contains o then v else v ++ [o]) else (k, v)
  | none => index ++ [(key, [o])]

/-- The index with `o` removed from `key`; a key left with no outpoints is dropped. -/
def indexErase (index : List (DomainTopic × List Outpoint)) (key : DomainTopic)
    (o : Outpoint) : List (DomainTopic × List Outpoint) :=
  (index.map fun (k, v) => if k == key then (k, v.erase o) else (k, v)).filter
    (!·.2.isEmpty)

/-- The key of a record. -/
def keyOf (r : AdvertisementRecord) : DomainTopic := (r.domain, r.topic)

/-- The live record at an outpoint. -/
def get? (s : MemoryStore) (o : Outpoint) : Option AdvertisementRecord :=
  (s.records.find? (·.record.outpoint == o)).map (·.record)

/-- The number of live records. -/
def size (s : MemoryStore) : Nat := s.records.length

/-- The index built afresh from the records. -/
def rebuiltIndex (records : List StoredRecord) : List (DomainTopic × List Outpoint) :=
  records.foldl (fun idx sr => indexInsert idx (keyOf sr.record) sr.record.outpoint) []

/-- Builds the indexes if they are not built yet. -/
def ensureIndexes (s : MemoryStore) : MemoryStore :=
  if s.indexesReady then s else { s with index := rebuiltIndex s.records, indexesReady := true }

/-- Removes the record at an outpoint, if there is one, from the records and the index. -/
def delete (s : MemoryStore) (o : Outpoint) : MemoryStore :=
  match s.records.find? (·.record.outpoint == o) with
  | some old =>
    { s with records := s.records.filter (·.record.outpoint != o),
             index := indexErase s.index (keyOf old.record) o }
  | none => s

/-- Stores an entry at time `now`, replacing any record at its outpoint; the record takes the
next sequence number. -/
def store (s : MemoryStore) (e : RecordEntry) (now : Nat) : MemoryStore :=
  let r := AdvertisementRecord.ofEntry e now
  let s := s.delete e.outpoint
  { s with records := s.records ++ [⟨r, s.nextSeq⟩],
           index := indexInsert s.index (keyOf r) e.outpoint,
           nextSeq := s.nextSeq + 1 }

/-- The records a query may match: those the index holds under the query's domain and each
of its topics (each once) when both are given and the indexes are built, otherwise all. -/
def candidates (s : MemoryStore) (q : RecordQuery) : List StoredRecord :=
  match q.domain, q.topics with
  | some d, some ts =>
    if s.indexesReady then
      ((ts.flatMap fun t => s.indexed (d, t)).eraseDups).filterMap fun o =>
        s.records.find? (·.record.outpoint == o)
    else s.records
  | _, _ => s.records

/-- Whether `a` was created before `b`, ties broken by sequence number. -/
def createdBefore (a b : StoredRecord) : Bool :=
  a.record.createdAt < b.record.createdAt ||
    (a.record.createdAt == b.record.createdAt && a.seq ≤ b.seq)

/-- The outpoints of the records matching a query, ordered and windowed. -/
def find (s : MemoryStore) (q : RecordQuery) : List Outpoint :=
  let ordered := ((s.candidates q).filter (q.matches ·.record)).mergeSort createdBefore
  let ordered := if q.pagination.sortOrder = .desc then ordered.reverse else ordered
  q.pagination.window (ordered.map (·.record.outpoint))

end MemoryStore

/-- A settable clock of milliseconds that wraps at 2^64. -/
structure ManualClock where
  now : UInt64
  deriving DecidableEq

/-- The clock moved forward by `ms`, wrapping. -/
def ManualClock.advance (c : ManualClock) (ms : UInt64) : ManualClock := ⟨c.now + ms⟩

end ShipSlap.Store
