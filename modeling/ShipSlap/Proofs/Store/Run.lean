import Mathlib
import ShipSlap.Store.Memory
/-!
Runs of the memory store: any list of writes (store, delete, build the indexes) applied to the
empty store. What is proved:

1. `stored?_store`, `stored?_delete` and, for the records alone, `get?_store`, `get?_delete`
   and `get?_ensureIndexes`: a store puts its record at its outpoint under the next sequence
   number and leaves every other outpoint as it was, a delete empties its outpoint and nothing
   else, and building the indexes moves no record. None of this needs an invariant: a delete
   removes every record at its outpoint, however many there are.
2. `bucket_indexInsert` and `bucket_indexErase`: what the two index writes do to the outpoints
   under each key, the second for an index whose keys are distinct.
3. `consistent_run`: after every run the records sit at distinct outpoints and carry distinct
   sequence numbers below the next one, and the index holds under each key exactly the
   outpoints of the live records with that key, each once. Writes keep the index in step
   whether or not it has been built, so a rebuild only recomputes what is already there.
-/
namespace ShipSlap.Store

/-- A write to the memory store. -/
inductive StoreOp where
  | store (e : RecordEntry) (now : Nat)
  | delete (o : Outpoint)
  | ensureIndexes

@[simp] theorem AdvertisementRecord.outpoint_ofEntry (e : RecordEntry) (now : Nat) :
    (AdvertisementRecord.ofEntry e now).outpoint = e.outpoint := rfl

namespace MemoryStore

/-- The store after one write. -/
def apply (s : MemoryStore) : StoreOp → MemoryStore
  | .store e now => s.store e now
  | .delete o => s.delete o
  | .ensureIndexes => s.ensureIndexes

/-- The store a list of writes leaves, starting from the empty store. -/
def run (ops : List StoreOp) : MemoryStore :=
  ops.foldl apply {}

/-! ## Reading one outpoint -/

/-- What a delete does: nothing when no record sits at the outpoint; otherwise it drops the
records there and the outpoint from the index, under the key of the record found. -/
theorem delete_cases (s : MemoryStore) (o : Outpoint) :
    (s.records.find? (·.record.outpoint == o) = none ∧ s.delete o = s) ∨
      ∃ old, s.records.find? (·.record.outpoint == o) = some old ∧
        s.delete o = { s with records := s.records.filter (·.record.outpoint != o),
                              index := indexErase s.index (keyOf old.record) o } := by
  unfold delete
  split
  · rename_i old hold
    exact .inr ⟨old, hold, rfl⟩
  · rename_i hnone
    exact .inl ⟨hnone, rfl⟩

/-- A delete keeps exactly the records at other outpoints; when no record sits at the outpoint
that is every record. -/
theorem records_delete (s : MemoryStore) (o : Outpoint) :
    (s.delete o).records = s.records.filter (·.record.outpoint != o) := by
  rcases delete_cases s o with ⟨hnone, hd⟩ | ⟨old, -, hd⟩
  · rw [hd]
    symm
    rw [List.filter_eq_self]
    intro r hr
    have hne := List.find?_eq_none.mp hnone r hr
    simpa using hne
  · rw [hd]

@[simp] theorem nextSeq_delete (s : MemoryStore) (o : Outpoint) :
    (s.delete o).nextSeq = s.nextSeq := by
  rcases delete_cases s o with ⟨-, hd⟩ | ⟨old, -, hd⟩ <;> rw [hd]

@[simp] theorem indexesReady_delete (s : MemoryStore) (o : Outpoint) :
    (s.delete o).indexesReady = s.indexesReady := by
  rcases delete_cases s o with ⟨-, hd⟩ | ⟨old, -, hd⟩ <;> rw [hd]

theorem records_store (s : MemoryStore) (e : RecordEntry) (now : Nat) :
    (s.store e now).records = (s.delete e.outpoint).records ++
      [⟨AdvertisementRecord.ofEntry e now, (s.delete e.outpoint).nextSeq⟩] := rfl

/-- The stored record, with its sequence number, at an outpoint. -/
def stored? (s : MemoryStore) (o : Outpoint) : Option StoredRecord :=
  s.records.find? (·.record.outpoint == o)

theorem stored?_eq (s : MemoryStore) (o : Outpoint) :
    s.stored? o = s.records.find? (·.record.outpoint == o) := rfl

theorem get?_eq_map_stored? (s : MemoryStore) (o : Outpoint) :
    s.get? o = (s.stored? o).map (·.record) := rfl

@[simp] theorem stored?_delete (s : MemoryStore) (o o' : Outpoint) :
    (s.delete o).stored? o' = if o = o' then none else s.stored? o' := by
  simp only [stored?_eq, records_delete, List.find?_filter]
  by_cases h : o = o'
  · subst h
    simp
  · rw [if_neg h]
    congr 1
    funext r
    by_cases hr : r.record.outpoint = o' <;> simp [hr, Ne.symm h]

@[simp] theorem stored?_store (s : MemoryStore) (e : RecordEntry) (now : Nat) (o : Outpoint) :
    (s.store e now).stored? o =
      if e.outpoint = o then some ⟨AdvertisementRecord.ofEntry e now, s.nextSeq⟩
      else s.stored? o := by
  have hdel := stored?_delete s e.outpoint o
  simp only [stored?_eq] at hdel ⊢
  simp only [records_store, List.find?_append, hdel, nextSeq_delete]
  by_cases h : e.outpoint = o <;> simp [h]

@[simp] theorem get?_delete (s : MemoryStore) (o o' : Outpoint) :
    (s.delete o).get? o' = if o = o' then none else s.get? o' := by
  rw [get?_eq_map_stored?, get?_eq_map_stored?, stored?_delete]
  split <;> rfl

@[simp] theorem get?_store (s : MemoryStore) (e : RecordEntry) (now : Nat) (o : Outpoint) :
    (s.store e now).get? o =
      if e.outpoint = o then some (AdvertisementRecord.ofEntry e now) else s.get? o := by
  rw [get?_eq_map_stored?, get?_eq_map_stored?, stored?_store]
  split <;> rfl

@[simp] theorem get?_ensureIndexes (s : MemoryStore) (o : Outpoint) :
    s.ensureIndexes.get? o = s.get? o := by
  unfold ensureIndexes; split <;> rfl

/-- Among elements with distinct keys, searching for the key of a member finds that member. -/
theorem find?_key_eq_some {α β : Type} [BEq β] [LawfulBEq β] {l : List α} {f : α → β}
    (hu : (l.map f).Nodup) {x : α} (hx : x ∈ l) : l.find? (fun y => f y == f x) = some x := by
  obtain ⟨y, hy⟩ : ∃ y, l.find? (fun y => f y == f x) = some y := by
    rw [← Option.isSome_iff_exists, Option.isSome_iff_ne_none, Ne, List.find?_eq_none]
    intro h
    exact h x hx (by simp)
  rw [hy, List.inj_on_of_nodup_map hu (List.mem_of_find?_eq_some hy) hx
    (by simpa using List.find?_some hy)]

/-! ## The secondary index -/

/-- The outpoints an index holds under a key. -/
def bucket (index : List (DomainTopic × List Outpoint)) (key : DomainTopic) : List Outpoint :=
  ((index.find? (·.1 == key)).map (·.2)).getD []

theorem bucket_eq (index : List (DomainTopic × List Outpoint)) (key : DomainTopic) :
    bucket index key = ((index.find? (·.1 == key)).map (·.2)).getD [] := rfl

theorem indexed_eq_bucket (s : MemoryStore) (key : DomainTopic) :
    s.indexed key = bucket s.index key := rfl

/-- Rewriting the entries of an index without moving their keys finds the same entry. -/
theorem find?_map_of_fst {index : List (DomainTopic × List Outpoint)}
    {f : DomainTopic × List Outpoint → DomainTopic × List Outpoint} (hf : ∀ x, (f x).1 = x.1)
    (key : DomainTopic) :
    (index.map f).find? (·.1 == key) = (index.find? (·.1 == key)).map f := by
  rw [List.find?_map]
  congr 2
  funext x
  simp [hf]

/-- Adding `o` under `key` appends it to the outpoints of that key unless it is there already,
and leaves every other key alone. -/
theorem bucket_indexInsert (index : List (DomainTopic × List Outpoint)) (key key' : DomainTopic)
    (o : Outpoint) :
    bucket (indexInsert index key o) key' =
      if key' = key then
        if o ∈ bucket index key then bucket index key else bucket index key ++ [o]
      else bucket index key' := by
  unfold indexInsert
  split
  · rename_i k os hfind
    have hk : k = key := by simpa using List.find?_some hfind
    subst hk
    rw [bucket_eq, find?_map_of_fst (by rintro ⟨k', v⟩; simp only; split <;> rfl)]
    by_cases hkey : key' = k
    · subst hkey
      simp [bucket_eq, hfind]
    · rw [if_neg hkey]
      cases hfind' : index.find? (·.1 == key') with
      | none => simp [bucket_eq, hfind']
      | some x =>
        obtain ⟨k', v⟩ := x
        have hk' : k' = key' := by simpa using List.find?_some hfind'
        subst hk'
        simp [bucket_eq, hfind', hkey]
  · rename_i hfind
    by_cases hkey : key' = key
    · subst hkey
      simp [bucket_eq, hfind]
    · have hlast : [(key, [o])].find? (·.1 == key') = none := by
        simp [Ne.symm hkey]
      simp [bucket_eq, hlast, hkey]

section DistinctKeys

variable {index : List (DomainTopic × List Outpoint)}

/-- In an index whose keys are distinct, the outpoints under a key are those of its entry. -/
theorem bucket_eq_of_mem (hk : (index.map (·.1)).Nodup) {key : DomainTopic}
    {v : List Outpoint} (hm : (key, v) ∈ index) : bucket index key = v := by
  have hf := find?_key_eq_some hk hm
  simp only at hf
  simp [bucket_eq, hf]

/-- A key with no entry holds no outpoints. -/
theorem bucket_eq_nil {key : DomainTopic} (hm : ∀ v, (key, v) ∉ index) :
    bucket index key = [] := by
  have hnone : index.find? (·.1 == key) = none := by
    rw [List.find?_eq_none]
    rintro ⟨k, v⟩ hkv hk
    have hkey : k = key := by simpa using hk
    subst hkey
    exact hm v hkv
  simp [bucket_eq, hnone]

theorem keys_indexInsert (hk : (index.map (·.1)).Nodup) (key : DomainTopic) (o : Outpoint) :
    ((indexInsert index key o).map (·.1)).Nodup := by
  unfold indexInsert
  split
  · rw [List.map_map]
    convert hk using 2
    funext ⟨k, v⟩
    simp only [Function.comp]
    split <;> rfl
  · rename_i hfind
    have hnew : key ∉ index.map (·.1) := by
      rw [List.mem_map]
      rintro ⟨⟨k, v⟩, hkv, hkey⟩
      exact List.find?_eq_none.mp hfind (k, v) hkv (by simpa using hkey)
    rw [List.map_append, List.nodup_append]
    refine ⟨hk, by simp, ?_⟩
    intro a ha b hb hab
    simp only [List.map_cons, List.map_nil, List.mem_singleton] at hb
    subst hb hab
    exact hnew ha

/-- The entries left after `o` leaves `key`: every entry with `o` taken from the outpoints of
`key`, as long as it still holds an outpoint. -/
theorem mem_indexErase {key k : DomainTopic} {o : Outpoint} {w : List Outpoint} :
    (k, w) ∈ indexErase index key o ↔
      w ≠ [] ∧ ∃ v, (k, v) ∈ index ∧ w = if k = key then v.erase o else v := by
  simp only [indexErase, List.mem_filter, List.mem_map, Bool.not_eq_true', List.isEmpty_eq_false_iff]
  constructor
  · rintro ⟨⟨⟨a, b⟩, hab, heq⟩, hne⟩
    by_cases h : a = key
    · subst h
      simp only [beq_self_eq_true, if_true, Prod.mk.injEq] at heq
      obtain ⟨rfl, rfl⟩ := heq
      exact ⟨hne, b, hab, by simp⟩
    · simp only [beq_iff_eq, h, if_false, Prod.mk.injEq] at heq
      obtain ⟨rfl, rfl⟩ := heq
      exact ⟨hne, b, hab, by simp [h]⟩
  · rintro ⟨hne, v, hv, rfl⟩
    refine ⟨⟨(k, v), hv, ?_⟩, hne⟩
    by_cases h : k = key <;> simp [h]

theorem keys_indexErase (hk : (index.map (·.1)).Nodup) (key : DomainTopic) (o : Outpoint) :
    ((indexErase index key o).map (·.1)).Nodup := by
  -- erasing keeps the key of every entry, and the filter only drops entries
  unfold indexErase
  refine List.Nodup.sublist ((List.filter_sublist).map _) ?_
  rw [List.map_map]
  convert hk using 2
  funext p
  obtain ⟨k, v⟩ := p
  dsimp only [Function.comp]
  split <;> rfl

/-- Taking `o` from `key` removes it from the outpoints of that key and leaves every other key
alone, in an index whose keys are distinct. -/
theorem bucket_indexErase (hk : (index.map (·.1)).Nodup) (key key' : DomainTopic)
    (o : Outpoint) :
    bucket (indexErase index key o) key' =
      if key' = key then (bucket index key).erase o else bucket index key' := by
  by_cases hm : ∃ v, (key', v) ∈ index
  · obtain ⟨v, hv⟩ := hm
    have hb : bucket index key' = v := bucket_eq_of_mem hk hv
    have hrhs : (if key' = key then (bucket index key).erase o else bucket index key') =
        if key' = key then v.erase o else v := by
      by_cases h : key' = key
      · subst h; simp [hb]
      · simp [h, hb]
    rw [hrhs]
    by_cases hw : (if key' = key then v.erase o else v) = []
    · rw [hw]
      apply bucket_eq_nil
      intro w' hw'
      obtain ⟨hne, v', hv', rfl⟩ := Iff.mp mem_indexErase hw'
      have hvv : (key', v') = (key', v) := List.inj_on_of_nodup_map hk hv' hv rfl
      simp only [Prod.mk.injEq, true_and] at hvv
      subst hvv
      exact hne hw
    · exact bucket_eq_of_mem (keys_indexErase hk key o) (Iff.mpr mem_indexErase ⟨hw, v, hv, rfl⟩)
  · push Not at hm
    rw [bucket_eq_nil hm, bucket_eq_nil]
    · by_cases h : key' = key
      · subst h; simp [bucket_eq_nil hm]
      · simp [h]
    · intro w hw
      obtain ⟨_, v, hv, _⟩ := Iff.mp mem_indexErase hw
      exact hm v hv

end DistinctKeys

/-! ## Exact indexes -/

/-- An index with one entry per key that holds under each key exactly the outpoints of the
records with that key, each once. -/
structure IndexExact (index : List (DomainTopic × List Outpoint)) (records : List StoredRecord) :
    Prop where
  keys_nodup : (index.map (·.1)).Nodup
  buckets_nodup : ∀ key, (bucket index key).Nodup
  mem_bucket : ∀ key o,
    o ∈ bucket index key ↔ ∃ r ∈ records, r.record.outpoint = o ∧ keyOf r.record = key

theorem IndexExact.nil : IndexExact [] [] where
  keys_nodup := List.nodup_nil
  buckets_nodup _ := by simp [bucket_eq]
  mem_bucket _ _ := by simp [bucket_eq]

/-- Indexing one more record keeps the index exact. -/
theorem IndexExact.insert {index : List (DomainTopic × List Outpoint)}
    {records : List StoredRecord} (h : IndexExact index records) (r : StoredRecord) :
    IndexExact (indexInsert index (keyOf r.record) r.record.outpoint) (records ++ [r]) where
  keys_nodup := keys_indexInsert h.keys_nodup _ _
  buckets_nodup key := by
    rw [bucket_indexInsert]
    split
    · split
      · exact h.buckets_nodup _
      · rename_i hnew
        rw [List.nodup_append]
        refine ⟨h.buckets_nodup _, List.nodup_singleton _, ?_⟩
        intro a ha b hb hab
        simp only [List.mem_singleton] at hb
        subst hb hab
        exact hnew ha
    · exact h.buckets_nodup key
  mem_bucket key o := by
    simp only [bucket_indexInsert, List.mem_append, List.mem_singleton, or_and_right, exists_or,
      exists_eq_left]
    by_cases hk : key = keyOf r.record
    · subst hk
      rw [if_pos rfl]
      by_cases hr : r.record.outpoint ∈ bucket index (keyOf r.record)
      · rw [if_pos hr, h.mem_bucket]
        rw [h.mem_bucket] at hr
        constructor
        · exact Or.inl
        · rintro (hx | ⟨rfl, -⟩)
          · exact hx
          · exact hr
      · rw [if_neg hr, List.mem_append, List.mem_singleton, h.mem_bucket]
        simp [eq_comm]
    · simp [hk, h.mem_bucket, Ne.symm hk]

/-- Taking a record's outpoint from its key keeps the index exact for the other records, when
no two records share an outpoint. -/
theorem IndexExact.erase {index : List (DomainTopic × List Outpoint)}
    {records : List StoredRecord} (h : IndexExact index records)
    (hu : (records.map (·.record.outpoint)).Nodup) {old : StoredRecord} (hold : old ∈ records) :
    IndexExact (indexErase index (keyOf old.record) old.record.outpoint)
      (records.filter (·.record.outpoint != old.record.outpoint)) where
  keys_nodup := keys_indexErase h.keys_nodup _ _
  buckets_nodup key := by
    rw [bucket_indexErase h.keys_nodup]
    split
    · exact (h.buckets_nodup _).erase _
    · exact h.buckets_nodup key
  mem_bucket key o := by
    rw [bucket_indexErase h.keys_nodup]
    simp only [List.mem_filter, bne_iff_ne, ne_eq]
    split
    · rename_i hk
      subst hk
      rw [(h.buckets_nodup _).mem_erase_iff, h.mem_bucket]
      constructor
      · rintro ⟨hne, x, hx, rfl, hkx⟩
        exact ⟨x, ⟨hx, hne⟩, rfl, hkx⟩
      · rintro ⟨x, ⟨hx, hne⟩, rfl, hkx⟩
        exact ⟨hne, x, hx, rfl, hkx⟩
    · rename_i hk
      rw [h.mem_bucket]
      constructor
      · rintro ⟨x, hx, rfl, hkx⟩
        refine ⟨x, ⟨hx, ?_⟩, rfl, hkx⟩
        -- the record at the erased outpoint is `old` itself, which sits under another key
        intro heq
        have hxo : x = old := List.inj_on_of_nodup_map hu hx hold heq
        subst hxo
        exact hk hkx.symm
      · rintro ⟨x, ⟨hx, -⟩, rfl, hkx⟩
        exact ⟨x, hx, rfl, hkx⟩

/-- Indexing records one after another keeps the index exact. -/
theorem IndexExact.foldl_insert : ∀ (recs : List StoredRecord)
    {index : List (DomainTopic × List Outpoint)} {pre : List StoredRecord},
    IndexExact index pre →
    IndexExact (recs.foldl (fun idx sr => indexInsert idx (keyOf sr.record) sr.record.outpoint)
      index) (pre ++ recs)
  | [], _, _, h => by simpa using h
  | r :: rest, _, _, h => by simpa using IndexExact.foldl_insert rest (h.insert r)

theorem indexExact_rebuiltIndex (records : List StoredRecord) :
    IndexExact (rebuiltIndex records) records := by
  simpa [rebuiltIndex] using IndexExact.foldl_insert records IndexExact.nil

/-! ## The invariant of every run -/

/-- What every store reached by writes from the empty store satisfies: one record per outpoint,
distinct sequence numbers below the next one, and an exact index. -/
structure Consistent (s : MemoryStore) : Prop where
  outpoints_nodup : (s.records.map (·.record.outpoint)).Nodup
  seqs_nodup : (s.records.map (·.seq)).Nodup
  seq_lt : ∀ r ∈ s.records, r.seq < s.nextSeq
  index_exact : IndexExact s.index s.records

theorem consistent_empty : Consistent {} where
  outpoints_nodup := List.nodup_nil
  seqs_nodup := List.nodup_nil
  seq_lt := by simp
  index_exact := IndexExact.nil

theorem consistent_delete {s : MemoryStore} (h : Consistent s) (o : Outpoint) :
    Consistent (s.delete o) := by
  rcases delete_cases s o with ⟨-, hd⟩ | ⟨old, hfind, hd⟩
  · rw [hd]
    exact h
  · rw [hd]
    have hold := List.mem_of_find?_eq_some hfind
    have ho : old.record.outpoint = o := by simpa using List.find?_some hfind
    subst ho
    exact {
      outpoints_nodup := List.Nodup.sublist (List.filter_sublist.map _) h.outpoints_nodup
      seqs_nodup := List.Nodup.sublist (List.filter_sublist.map _) h.seqs_nodup
      seq_lt := fun r hr => h.seq_lt r (List.mem_of_mem_filter hr)
      index_exact := h.index_exact.erase h.outpoints_nodup hold }

theorem consistent_store {s : MemoryStore} (h : Consistent s) (e : RecordEntry) (now : Nat) :
    Consistent (s.store e now) := by
  have h1 := consistent_delete h e.outpoint
  -- what the delete left holds no record at the outpoint, and only older sequence numbers
  have hoff : ∀ x ∈ (s.delete e.outpoint).records, x.record.outpoint ≠ e.outpoint := by
    intro x hx
    rw [records_delete, List.mem_filter] at hx
    simpa using hx.2
  refine {
    outpoints_nodup := ?_
    seqs_nodup := ?_
    seq_lt := ?_
    index_exact := h1.index_exact.insert ⟨AdvertisementRecord.ofEntry e now, _⟩ }
  · simp only [records_store, List.map_append, List.map_cons, List.map_nil, List.nodup_append]
    refine ⟨h1.outpoints_nodup, List.nodup_singleton _, ?_⟩
    simp only [List.mem_map, List.mem_singleton]
    rintro _ ⟨x, hx, rfl⟩ _ rfl heq
    exact hoff x hx heq
  · simp only [records_store, List.map_append, List.map_cons, List.map_nil, List.nodup_append]
    refine ⟨h1.seqs_nodup, List.nodup_singleton _, ?_⟩
    simp only [List.mem_map, List.mem_singleton]
    rintro _ ⟨x, hx, rfl⟩ _ rfl heq
    exact absurd (h1.seq_lt x hx) (by simp [heq])
  · simp only [records_store, List.mem_append, List.mem_singleton]
    rintro r (hr | rfl)
    · exact Nat.lt_succ_of_lt (h1.seq_lt r hr)
    · exact Nat.lt_succ_self _

theorem consistent_ensureIndexes {s : MemoryStore} (h : Consistent s) :
    Consistent s.ensureIndexes := by
  unfold ensureIndexes
  split
  · exact h
  · exact { h with index_exact := indexExact_rebuiltIndex s.records }

/-- One write keeps the invariant. -/
theorem consistent_apply {s : MemoryStore} (h : Consistent s) : ∀ op, Consistent (s.apply op)
  | .store e now => consistent_store h e now
  | .delete o => consistent_delete h o
  | .ensureIndexes => consistent_ensureIndexes h

/-- What every write keeps, every list of writes keeps. -/
theorem foldl_apply_of_step {P : MemoryStore → Prop} (hstep : ∀ s op, P s → P (s.apply op)) :
    ∀ (ops : List StoreOp) {s : MemoryStore}, P s → P (ops.foldl apply s)
  | [], _, h => h
  | op :: rest, _, h => foldl_apply_of_step hstep rest (hstep _ op h)

/-- Every list of writes keeps the invariant. -/
theorem consistent_foldl (ops : List StoreOp) {s : MemoryStore} (h : Consistent s) :
    Consistent (ops.foldl apply s) :=
  @foldl_apply_of_step Consistent (fun _ op h => consistent_apply h op) ops s h

/-- **The store invariant.** After any run from the empty store the records sit at distinct
outpoints with distinct sequence numbers, and the index is exact. -/
theorem consistent_run (ops : List StoreOp) : Consistent (run ops) :=
  consistent_foldl ops consistent_empty

end MemoryStore

end ShipSlap.Store
