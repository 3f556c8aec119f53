import Mathlib
import ShipSlap.Proofs.Store.Query
/-!
What each write does to the memory store, seen through the map from outpoints to stored records
and through the secondary index. Main statements:

1. `index_exact_run`: after every run of writes, built indexes or not, the index is a map whose
   keys are distinct and whose every entry holds some outpoint; under each `(domain, topic)` it
   holds, once each, exactly the outpoints whose live record has that domain and topic. A write
   that moves a record to another key leaves nothing under the old one, and a delete leaves no
   orphan.
2. `store_upsert_delete_frame`: storing an entry maps its outpoint to the new record under a
   sequence number above every live one and leaves every other outpoint, sequence number
   included, as it was; the count of live records grows by one exactly when the outpoint was
   free. A delete empties its outpoint and nothing else, a second delete of it changes nothing,
   and two deletes commute.

The delete and store equations hold of every store; the sequence bound and the count rest on the
run invariant `Consistent`. That no entry is empty is a separate invariant (`NoEmptyBucket`):
adding an outpoint makes its entry nonempty and taking one away drops an entry left empty.
-/
namespace ShipSlap.Store.MemoryStore

/-! ## The records as a map -/

/-- On a consistent store the stored record at an outpoint is the live record there. -/
theorem stored?_eq_some_iff {s : MemoryStore} (h : Consistent s) {o : Outpoint}
    {r : StoredRecord} : s.stored? o = some r ↔ r ∈ s.records ∧ r.record.outpoint = o :=
  find?_outpoint_eq_some h.outpoints_nodup

theorem get?_eq_some_iff {s : MemoryStore} (h : Consistent s) {o : Outpoint}
    {r : AdvertisementRecord} :
    s.get? o = some r ↔ ∃ sr ∈ s.records, sr.record.outpoint = o ∧ sr.record = r := by
  rw [get?_eq_map_stored?, Option.map_eq_some_iff]
  constructor
  · rintro ⟨sr, hsr, rfl⟩
    obtain ⟨hmem, hout⟩ := (stored?_eq_some_iff h).mp hsr
    exact ⟨sr, hmem, hout, rfl⟩
  · rintro ⟨sr, hmem, hout, rfl⟩
    exact ⟨sr, (stored?_eq_some_iff h).mpr ⟨hmem, hout⟩, rfl⟩

/-! ## Deletes -/

/-- One entry with `o` taken from its outpoints when its key is `key`: what `indexErase` does
to each entry before it drops the empty ones. -/
def eraseFrom (key : DomainTopic) (o : Outpoint) (kv : DomainTopic × List Outpoint) :
    DomainTopic × List Outpoint :=
  if kv.1 = key then (kv.1, kv.2.erase o) else kv

theorem eraseFrom_eq (key : DomainTopic) (o : Outpoint) (kv : DomainTopic × List Outpoint) :
    eraseFrom key o kv = if kv.1 = key then (kv.1, kv.2.erase o) else kv := rfl

theorem indexErase_eq (index : List (DomainTopic × List Outpoint)) (key : DomainTopic)
    (o : Outpoint) :
    indexErase index key o = (index.map (eraseFrom key o)).filter (!·.2.isEmpty) := by
  unfold indexErase
  congr 2
  funext ⟨k, v⟩
  by_cases hk : k = key <;> simp [eraseFrom_eq, hk]

theorem eraseFrom_comm (key key' : DomainTopic) (o o' : Outpoint)
    (kv : DomainTopic × List Outpoint) :
    eraseFrom key' o' (eraseFrom key o kv) = eraseFrom key o (eraseFrom key' o' kv) := by
  obtain ⟨k, v⟩ := kv
  by_cases hk : k = key
  · subst hk
    by_cases hk' : k = key'
    · subst hk'
      simp [eraseFrom_eq, List.erase_comm]
    · simp [eraseFrom_eq, hk']
  · by_cases hk' : k = key'
    · subst hk'
      simp [eraseFrom_eq, hk]
    · simp [eraseFrom_eq, hk, hk']

/-- An entry that holds nothing still holds nothing after a removal. -/
theorem isEmpty_eraseFrom {key : DomainTopic} {o : Outpoint} {kv : DomainTopic × List Outpoint}
    (h : kv.2.isEmpty = true) : (eraseFrom key o kv).2.isEmpty = true := by
  obtain ⟨k, v⟩ := kv
  simp only [List.isEmpty_iff] at h
  subst h
  by_cases hk : k = key <;> simp [eraseFrom_eq, hk]

/-- Filtering before a map that keeps failing elements failing changes nothing once the result
is filtered again. -/
theorem filter_map_filter {α : Type} {p : α → Bool} {f : α → α}
    (hf : ∀ x, p (f x) = true → p x = true) (l : List α) :
    ((l.filter p).map f).filter p = (l.map f).filter p := by
  induction l with
  | nil => rfl
  | cons x l ih =>
    by_cases hx : p x = true
    · rw [List.filter_cons_of_pos hx, List.map_cons, List.map_cons, List.filter_cons,
        List.filter_cons, ih]
    · have hfx : p (f x) = false := by
        cases hpf : p (f x)
        · rfl
        · exact absurd (hf x hpf) hx
      simp [hx, hfx, ih]

/-- Two removals drop the empty entries once, at the end: an entry the first leaves empty
stays empty through the second. -/
theorem indexErase_indexErase (index : List (DomainTopic × List Outpoint))
    (key key' : DomainTopic) (o o' : Outpoint) :
    indexErase (indexErase index key o) key' o' =
      (index.map (eraseFrom key' o' ∘ eraseFrom key o)).filter (!·.2.isEmpty) := by
  have hkeep : ∀ kv : DomainTopic × List Outpoint,
      (!(eraseFrom key' o' kv).2.isEmpty) = true → (!kv.2.isEmpty) = true := by
    intro kv hkv
    cases hempty : kv.2.isEmpty
    · rfl
    · simp [isEmpty_eraseFrom hempty] at hkv
  rw [indexErase_eq, indexErase_eq, filter_map_filter hkeep, List.map_map]

/-- Removals from the index commute. -/
theorem indexErase_comm (index : List (DomainTopic × List Outpoint)) (key key' : DomainTopic)
    (o o' : Outpoint) :
    indexErase (indexErase index key o) key' o' = indexErase (indexErase index key' o') key o := by
  rw [indexErase_indexErase, indexErase_indexErase]
  congr 2
  funext kv
  exact eraseFrom_comm key key' o o' kv

/-- A delete whose outpoint holds no record changes nothing. -/
theorem delete_of_stored?_eq_none {s : MemoryStore} {o : Outpoint} (hnone : s.stored? o = none) :
    s.delete o = s := by
  unfold delete
  rw [show s.records.find? (·.record.outpoint == o) = none from hnone]

/-- A delete whose outpoint holds `old` drops every record there and takes `o` from the key
of `old`. -/
theorem delete_of_stored?_eq_some {s : MemoryStore} {o : Outpoint} {old : StoredRecord}
    (hsome : s.stored? o = some old) :
    s.delete o = { s with records := s.records.filter (·.record.outpoint != o),
                          index := indexErase s.index (keyOf old.record) o } := by
  unfold delete
  rw [show s.records.find? (·.record.outpoint == o) = some old from hsome]

/-- Deleting twice is deleting once. -/
theorem delete_delete_self (s : MemoryStore) (o : Outpoint) : (s.delete o).delete o = s.delete o :=
  delete_of_stored?_eq_none (by simp)

/-- Deletes commute, whether or not their outpoints hold records. -/
theorem delete_comm (s : MemoryStore) (o o' : Outpoint) :
    (s.delete o).delete o' = (s.delete o').delete o := by
  by_cases hoo : o = o'
  · rw [hoo]
  cases ho : s.stored? o with
  | none =>
    rw [delete_of_stored?_eq_none ho,
      delete_of_stored?_eq_none (show (s.delete o').stored? o = none by simp [ho])]
  | some a =>
    cases ho' : s.stored? o' with
    | none =>
      rw [delete_of_stored?_eq_none ho',
        delete_of_stored?_eq_none (show (s.delete o).stored? o' = none by simp [ho'])]
    | some b =>
      -- each outpoint still holds its record after the other delete
      have hb : (s.delete o).stored? o' = some b := by simp [hoo, ho']
      have ha : (s.delete o').stored? o = some a := by simp [Ne.symm hoo, ho]
      rw [delete_of_stored?_eq_some hb, delete_of_stored?_eq_some ha,
        delete_of_stored?_eq_some ho, delete_of_stored?_eq_some ho']
      simp only [List.filter_filter, indexErase_comm, Bool.and_comm]

/-! ## Counting live records -/

/-- On a consistent store a delete removes one record when its outpoint holds one. -/
theorem size_delete {s : MemoryStore} (h : Consistent s) (o : Outpoint) :
    (s.delete o).size = if s.stored? o = none then s.size else s.size - 1 := by
  cases ho : s.stored? o with
  | none => simp [delete_of_stored?_eq_none ho]
  | some old =>
    obtain ⟨hold, hout⟩ := (stored?_eq_some_iff h).mp ho
    -- the records at `o` are counted by the outpoints, where `o` occurs once
    have hone : (s.records.filter (·.record.outpoint == o)).length = 1 := by
      have hcount : (s.records.map (·.record.outpoint)).count o = 1 :=
        List.count_eq_one_of_mem h.outpoints_nodup (List.mem_map.mpr ⟨old, hold, hout⟩)
      rwa [List.count, List.countP_map, List.countP_eq_length_filter] at hcount
    have hsplit : s.records.length = (s.records.filter (·.record.outpoint == o)).length +
        (s.records.filter fun r => !(r.record.outpoint == o)).length :=
      List.length_eq_length_filter_add _
    rw [delete_of_stored?_eq_some ho]
    simp only [size, reduceCtorEq, if_false]
    have hne : (fun r : StoredRecord => r.record.outpoint != o) =
        fun r => !(r.record.outpoint == o) := rfl
    rw [hne]
    omega

theorem size_store {s : MemoryStore} (h : Consistent s) (e : RecordEntry) (now : Nat) :
    (s.store e now).size = if s.get? e.outpoint = none then s.size + 1 else s.size := by
  have hdel := size_delete h e.outpoint
  have hstore : (s.store e now).size = (s.delete e.outpoint).size + 1 := by
    simp [records_store, size]
  rw [hstore, hdel, get?_eq_map_stored?]
  cases ho : s.stored? e.outpoint with
  | none => simp
  | some old =>
    have hpos : 0 < s.size := List.length_pos_of_mem ((stored?_eq_some_iff h).mp ho).1
    simp only [reduceCtorEq, if_false, Option.map_some]
    omega

/-! ## No empty entry in the index -/

/-- Every entry of an index holds some outpoint. -/
def NoEmptyBucket (index : List (DomainTopic × List Outpoint)) : Prop :=
  ∀ kv ∈ index, kv.2 ≠ []

theorem noEmptyBucket_nil : NoEmptyBucket [] := by
  simp [NoEmptyBucket]

theorem NoEmptyBucket.insert {index : List (DomainTopic × List Outpoint)} (h : NoEmptyBucket index)
    (key : DomainTopic) (o : Outpoint) : NoEmptyBucket (indexInsert index key o) := by
  unfold indexInsert
  split
  · rintro ⟨k, w⟩ hkw
    obtain ⟨⟨k', v⟩, hv, heq⟩ := List.mem_map.mp hkw
    have hv' : v ≠ [] := h _ hv
    by_cases hk : k' = key
    · simp only [hk, beq_self_eq_true, if_true, Prod.mk.injEq] at heq
      obtain ⟨-, rfl⟩ := heq
      split <;> simp [hv']
    · simp only [beq_iff_eq, hk, if_false, Prod.mk.injEq] at heq
      obtain ⟨-, rfl⟩ := heq
      exact hv'
  · rintro kv hkv
    rcases List.mem_append.mp hkv with hkv | hkv
    · exact h kv hkv
    · simp only [List.mem_singleton] at hkv
      simp [hkv]

/-- Removing an outpoint drops the entries it leaves empty, whatever the index held. -/
theorem noEmptyBucket_indexErase (index : List (DomainTopic × List Outpoint)) (key : DomainTopic)
    (o : Outpoint) : NoEmptyBucket (indexErase index key o) := by
  intro kv hkv
  have hne := (List.mem_filter.mp hkv).2
  simpa using hne

theorem noEmptyBucket_rebuiltIndex (records : List StoredRecord) :
    NoEmptyBucket (rebuiltIndex records) := by
  unfold rebuiltIndex
  -- the fold starts from the empty index and only ever inserts
  suffices ∀ (recs : List StoredRecord) (index : List (DomainTopic × List Outpoint)),
      NoEmptyBucket index → NoEmptyBucket (recs.foldl
        (fun idx sr => indexInsert idx (keyOf sr.record) sr.record.outpoint) index) from
    this records [] noEmptyBucket_nil
  intro recs
  induction recs with
  | nil => exact fun _ h => h
  | cons r rest ih => exact fun index h => ih _ (h.insert _ _)

theorem noEmptyBucket_delete {s : MemoryStore} (h : NoEmptyBucket s.index) (o : Outpoint) :
    NoEmptyBucket (s.delete o).index := by
  cases ho : s.stored? o with
  | none =>
    rw [delete_of_stored?_eq_none ho]
    exact h
  | some old =>
    rw [delete_of_stored?_eq_some ho]
    exact noEmptyBucket_indexErase _ _ _

/-- One write keeps every entry of the index nonempty. -/
theorem noEmptyBucket_apply {s : MemoryStore} (h : NoEmptyBucket s.index) :
    ∀ op, NoEmptyBucket (s.apply op).index
  | .store e now => (noEmptyBucket_delete h e.outpoint).insert _ _
  | .delete o => noEmptyBucket_delete h o
  | .ensureIndexes => by
    show NoEmptyBucket s.ensureIndexes.index
    unfold ensureIndexes
    split
    · exact h
    · exact noEmptyBucket_rebuiltIndex _

theorem noEmptyBucket_run (ops : List StoreOp) : NoEmptyBucket (run ops).index :=
  @foldl_apply_of_step (fun s => NoEmptyBucket s.index) (fun _ op h => noEmptyBucket_apply h op)
    ops {} noEmptyBucket_nil

/-! ## Main statements -/

/-- **The secondary index is exact.** After any run of writes from the empty store, whether or
not the indexes have been built, the index has one entry per key and no empty entry, and under
each `(domain, topic)` it holds, once each, exactly the outpoints whose live record has that
domain and topic. -/
theorem index_exact_run (ops : List StoreOp) (key : DomainTopic) :
    ((run ops).index.map (·.1)).Nodup ∧
    (∀ v, (key, v) ∈ (run ops).index → v ≠ []) ∧
    ((run ops).indexed key).Nodup ∧
    ∀ o, o ∈ (run ops).indexed key ↔ ∃ r, (run ops).get? o = some r ∧ keyOf r = key := by
  have h := consistent_run ops
  refine ⟨h.index_exact.keys_nodup, fun v hv => noEmptyBucket_run ops (key, v) hv,
    h.index_exact.buckets_nodup key, fun o => ?_⟩
  rw [indexed_eq_bucket, h.index_exact.mem_bucket]
  constructor
  · rintro ⟨sr, hsr, hout, hkey⟩
    exact ⟨sr.record, (get?_eq_some_iff h).mpr ⟨sr, hsr, hout, rfl⟩, hkey⟩
  · rintro ⟨r, hr, rfl⟩
    obtain ⟨sr, hsr, hout, rfl⟩ := (get?_eq_some_iff h).mp hr
    exact ⟨sr, hsr, hout, rfl⟩

/-- **Stores upsert and deletes touch only their outpoint.** On every store a run of writes
reaches: storing an entry at time `now` maps its outpoint to the record stamped `now` under
the next sequence number, which is above that of every live record, and leaves every other
outpoint with its record and sequence number; the count of live records grows by one exactly
when the outpoint was free. Deleting `o` empties `o` and leaves every other outpoint as it
was; deleting it again changes nothing, and deletes commute. -/
theorem store_upsert_delete_frame (ops : List StoreOp) (e : RecordEntry) (now : Nat)
    (o o' : Outpoint) :
    (∀ p, ((run ops).store e now).stored? p =
      if e.outpoint = p then some ⟨AdvertisementRecord.ofEntry e now, (run ops).nextSeq⟩
      else (run ops).stored? p) ∧
    (∀ p r, (run ops).stored? p = some r → r.seq < (run ops).nextSeq) ∧
    ((run ops).store e now).size =
      (if (run ops).get? e.outpoint = none then (run ops).size + 1 else (run ops).size) ∧
    (∀ p, ((run ops).delete o).stored? p = if o = p then none else (run ops).stored? p) ∧
    ((run ops).delete o).delete o = (run ops).delete o ∧
    ((run ops).delete o).delete o' = ((run ops).delete o').delete o := by
  have h := consistent_run ops
  refine ⟨stored?_store _ e now, fun p r hr => ?_, size_store h e now, stored?_delete _ o,
    delete_delete_self _ o, delete_comm _ o o'⟩
  exact h.seq_lt r ((stored?_eq_some_iff h).mp hr).1

end ShipSlap.Store.MemoryStore
