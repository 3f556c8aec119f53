import Mathlib
import ShipSlap.Proofs.Store.Run
/-!
The indexed query path against the full scan. Once the indexes are built, a query that pins a
domain and a list of topics takes its candidates from the secondary index: the outpoints under
each of its topics, each outpoint once, looked up among the records. Main statement:
`find_eq_scan`, on every store a run of writes reaches, every query returns the same list
whether its candidates come from the index or from all live records.

The two candidate lists come in different orders, but after the filter they hold the same
records, each once (`filter_candidates_perm`). Ordering by creation time, ties by sequence
number, then makes them equal, because no two live records share a sequence number.
-/
namespace ShipSlap.Store.MemoryStore

/-- A list with its repeats removed holds each element once. -/
theorem nodup_eraseDups {α : Type} [BEq α] [LawfulBEq α] : ∀ (l : List α), l.eraseDups.Nodup
  | [] => List.nodup_nil
  | a :: as => by
    rw [List.eraseDups_cons, List.nodup_cons]
    refine ⟨?_, nodup_eraseDups _⟩
    simp
termination_by l => l.length
decreasing_by exact Nat.lt_succ_of_le (List.length_filter_le _ _)

/-- Among records at distinct outpoints, the search for an outpoint finds the record there. -/
theorem find?_outpoint_eq_some {records : List StoredRecord}
    (hu : (records.map (·.record.outpoint)).Nodup) {o : Outpoint} {r : StoredRecord} :
    records.find? (·.record.outpoint == o) = some r ↔ r ∈ records ∧ r.record.outpoint = o := by
  constructor
  · intro hf
    exact ⟨List.mem_of_find?_eq_some hf, by simpa using List.find?_some hf⟩
  · rintro ⟨hr, rfl⟩
    exact find?_key_eq_some hu hr

/-- A record passes a query that pins a domain and topics only with that domain and one of
those topics. -/
theorem matches_pinned {q : RecordQuery} {d : String} {ts : List String}
    (hd : q.domain = some d) (ht : q.topics = some ts) {r : AdvertisementRecord}
    (hm : q.matches r = true) : r.domain = d ∧ r.topic ∈ ts := by
  simp only [RecordQuery.matches, hd, ht, Option.all_some, Bool.and_eq_true, beq_iff_eq,
    List.contains_iff_mem] at hm
  exact ⟨hm.1.1.symm, hm.1.2⟩

theorem candidates_of_indexed {s : MemoryStore} {q : RecordQuery} {d : String}
    {ts : List String} (hready : s.indexesReady = true) (hd : q.domain = some d)
    (ht : q.topics = some ts) :
    s.candidates q = ((ts.flatMap fun t => s.indexed (d, t)).eraseDups).filterMap fun o =>
      s.records.find? (·.record.outpoint == o) := by
  simp only [candidates, hd, ht, hready, if_true]

section Indexed

variable {s : MemoryStore} (h : Consistent s) {q : RecordQuery} {d : String} {ts : List String}
  (hready : s.indexesReady = true) (hd : q.domain = some d) (ht : q.topics = some ts)
include h hready hd ht

/-- The indexed candidates are the live records with the pinned domain and one of the pinned
topics. -/
theorem mem_candidates_indexed {r : StoredRecord} :
    r ∈ s.candidates q ↔ r ∈ s.records ∧ r.record.domain = d ∧ r.record.topic ∈ ts := by
  have hexact := h.index_exact
  simp only [candidates_of_indexed hready hd ht, List.mem_filterMap, List.mem_eraseDups,
    List.mem_flatMap, indexed_eq_bucket, hexact.mem_bucket, find?_outpoint_eq_some
      h.outpoints_nodup]
  constructor
  · rintro ⟨o, ⟨t, htm, x, hx, rfl, hkx⟩, hr, hro⟩
    -- the record found at the outpoint is the indexed one
    have hxr : x = r := List.inj_on_of_nodup_map h.outpoints_nodup hx hr hro.symm
    subst hxr
    simp only [keyOf, Prod.mk.injEq] at hkx
    exact ⟨hx, hkx.1, hkx.2 ▸ htm⟩
  · rintro ⟨hr, rfl, htm⟩
    exact ⟨r.record.outpoint, ⟨r.record.topic, htm, r, hr, rfl, rfl⟩, hr, rfl⟩

/-- The indexed candidates hold each record once. -/
theorem nodup_candidates_indexed : (s.candidates q).Nodup := by
  rw [candidates_of_indexed hready hd ht]
  refine List.Nodup.filterMap ?_ (nodup_eraseDups _)
  intro a a' r ha ha'
  rw [Option.mem_def, find?_outpoint_eq_some h.outpoints_nodup] at ha ha'
  exact ha.2.symm.trans ha'.2

end Indexed

/-- Whatever path the candidates take, the records that pass the filter are the live records
that match, each once. -/
theorem filter_candidates_perm {s : MemoryStore} (h : Consistent s) (q : RecordQuery) :
    List.Perm ((s.candidates q).filter (q.matches ·.record))
      (s.records.filter (q.matches ·.record)) := by
  by_cases hpin : ∃ d ts, q.domain = some d ∧ q.topics = some ts ∧ s.indexesReady = true
  · obtain ⟨d, ts, hd, ht, hready⟩ := hpin
    have hrecords : s.records.Nodup := List.Nodup.of_map _ h.outpoints_nodup
    rw [List.perm_ext_iff_of_nodup ((nodup_candidates_indexed h hready hd ht).filter _)
      (hrecords.filter _)]
    intro r
    simp only [List.mem_filter, mem_candidates_indexed h hready hd ht]
    constructor
    · rintro ⟨⟨hr, -, -⟩, hm⟩
      exact ⟨hr, hm⟩
    · rintro ⟨hr, hm⟩
      exact ⟨⟨hr, matches_pinned hd ht hm⟩, hm⟩
  · -- every other query scans all records
    have hscan : s.candidates q = s.records := by
      unfold candidates
      split
      · rename_i d ts hd ht
        split
        · rename_i hready
          exact absurd ⟨d, ts, hd, ht, hready⟩ hpin
        · rfl
      · rfl
    rw [hscan]

theorem createdBefore_iff {a b : StoredRecord} : createdBefore a b = true ↔
    a.record.createdAt < b.record.createdAt ∨
      a.record.createdAt = b.record.createdAt ∧ a.seq ≤ b.seq := by
  simp only [createdBefore, Bool.or_eq_true, Bool.and_eq_true, decide_eq_true_eq, beq_iff_eq]

/-- Creation time, ties by sequence number, orders records totally. -/
theorem createdBefore_total (a b : StoredRecord) :
    (createdBefore a b || createdBefore b a) = true := by
  simp only [Bool.or_eq_true, createdBefore_iff]
  omega

theorem createdBefore_trans (a b c : StoredRecord) :
    createdBefore a b = true → createdBefore b c = true → createdBefore a c = true := by
  simp only [createdBefore_iff]
  omega

/-- Two orderings of the same live records come out equal: no two live records tie on both
creation time and sequence number. -/
theorem mergeSort_eq_of_perm {s : MemoryStore} (h : Consistent s) {l₁ l₂ : List StoredRecord}
    (hp : List.Perm l₁ l₂) (hlive : ∀ r ∈ l₁, r ∈ s.records) :
    l₁.mergeSort createdBefore = l₂.mergeSort createdBefore := by
  refine List.Perm.eq_of_pairwise ?_
    (List.pairwise_mergeSort createdBefore_trans createdBefore_total l₁)
    (List.pairwise_mergeSort createdBefore_trans createdBefore_total l₂)
    ((List.mergeSort_perm l₁ _).trans (hp.trans (List.mergeSort_perm l₂ _).symm))
  intro a b ha hb hab hba
  have ha' := hlive a ((List.mergeSort_perm l₁ _).subset ha)
  have hb' := hlive b (hp.symm.subset ((List.mergeSort_perm l₂ _).subset hb))
  simp only [createdBefore_iff] at hab hba
  exact List.inj_on_of_nodup_map h.seqs_nodup ha' hb' (by omega)

/-- **The indexed path agrees with the full scan.** On every store a run of writes reaches,
every query returns the same outpoints whether its candidates come from the secondary index
or from all live records, as they do before the indexes are built. -/
theorem find_eq_scan (ops : List StoreOp) (q : RecordQuery) :
    (run ops).find q = { run ops with indexesReady := false }.find q := by
  have h := consistent_run ops
  have hscan : ({ run ops with indexesReady := false } : MemoryStore).candidates q =
      (run ops).records := by
    unfold candidates
    split <;> rfl
  have hsorted := mergeSort_eq_of_perm h (filter_candidates_perm h q) (by
    intro r hr
    obtain ⟨hr, -⟩ := List.mem_filter.mp hr
    unfold candidates at hr
    split at hr
    · split at hr
      · obtain ⟨o, -, hfound⟩ := List.mem_filterMap.mp hr
        exact List.mem_of_find?_eq_some hfound
      · exact hr
    · exact hr)
  unfold find
  rw [hscan, hsorted]

end ShipSlap.Store.MemoryStore
