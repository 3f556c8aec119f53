import Mathlib
import ShipSlap.Proofs.Store.Query
/-!
What a query answers, said without the order in which the store keeps its records. Results are
ordered by creation time, ties by the sequence number of the write that stored the record
(`StoredRecord.Before`). The answer is the outpoints of the live records that match, in that
order or newest first, with the window applied: `skip` results dropped, then at most `limit`
kept when the limit is positive. Main statements:

1. `find_eq_window_orient`: on a consistent store, a query answers the window of the outpoints
   of any strictly ordered arrangement of its matches, and `exists_sorted_matches` gives one.
   Such an arrangement exists because no two live records share a sequence number.
2. `find_eq_of_perm`: two consistent stores that hold the same records answer every query
   alike, whatever the order of their records and of their indexes, built or not.
3. `find_pages`: pages of `l` results, skipping `0, l, 2 l, …`, put together give the answer
   with no window, nothing lost and nothing repeated.
4. `find_run_sorted_matches`: all of it for every store a run of writes reaches.
-/
namespace ShipSlap.Store

/-- Record `a` comes before record `b` among results: created earlier, or at the same time by
an earlier write. -/
def StoredRecord.Before (a b : StoredRecord) : Prop :=
  a.record.createdAt < b.record.createdAt ∨
    (a.record.createdAt = b.record.createdAt ∧ a.seq < b.seq)

instance : DecidableRel StoredRecord.Before := fun _ _ =>
  inferInstanceAs (Decidable (_ ∨ _))

theorem StoredRecord.before_iff {a b : StoredRecord} : a.Before b ↔
    a.record.createdAt < b.record.createdAt ∨
      (a.record.createdAt = b.record.createdAt ∧ a.seq < b.seq) := Iff.rfl

/-- Results in the order asked for: oldest first as they stand, newest first reversed. -/
def SortOrder.orient {α : Type} : SortOrder → List α → List α
  | .asc => id
  | .desc => List.reverse

/-- The query with another window, in the same order. -/
def RecordQuery.withWindow (q : RecordQuery) (limit : Option Nat) (skip : Nat) : RecordQuery :=
  { q with pagination := { q.pagination with limit, skip } }

/-! ## The window -/

namespace Pagination

theorem window_of_pos {α : Type} (p : Pagination) {l : Nat} (hl : 0 < l)
    (hlimit : p.limit = some l) (xs : List α) : p.window xs = (xs.drop p.skip).take l := by
  obtain ⟨k, rfl⟩ := Nat.exists_eq_succ_of_ne_zero hl.ne'
  simp [window, hlimit]

/-- Pages of `l` items, the `i`-th skipping `i l`, put together give back any list of at most
`n l` items. The induction peels off the first page. -/
theorem flatMap_pages {α : Type} (l : Nat) : ∀ (n : Nat) (xs : List α), xs.length ≤ n * l →
    (List.range n).flatMap (fun i => (xs.drop (i * l)).take l) = xs
  | 0, xs, hlen => by
    have hnil : xs = [] := List.eq_nil_of_length_eq_zero (by omega)
    simp [hnil]
  | n + 1, xs, hlen => by
    have hrest : (xs.drop l).length ≤ n * l := by
      rw [List.length_drop]
      rw [Nat.succ_mul] at hlen
      omega
    -- the later pages of `xs` are the pages of what follows its first page
    have hshift : (fun i => (xs.drop (Nat.succ i * l)).take l) =
        fun i => ((xs.drop l).drop (i * l)).take l := by
      funext i
      rw [List.drop_drop, Nat.succ_mul, Nat.add_comm]
    rw [List.range_succ_eq_map, List.flatMap_cons, List.flatMap_map, hshift,
      flatMap_pages l n (xs.drop l) hrest, Nat.zero_mul, List.drop_zero, List.take_append_drop]

/-- Windows of `l` results skipping `0, l, 2 l, …` put together give back the list. -/
theorem window_pages {α : Type} (p : Pagination) {l : Nat} (hl : 0 < l) (xs : List α) {n : Nat}
    (hlen : xs.length ≤ n * l) :
    (List.range n).flatMap
      (fun i => ({ p with limit := some l, skip := i * l } : Pagination).window xs) = xs := by
  have hpage : ∀ i, ({ p with limit := some l, skip := i * l } : Pagination).window xs =
      (xs.drop (i * l)).take l := fun i => window_of_pos _ hl rfl xs
  simp only [hpage]
  exact flatMap_pages l n xs hlen

end Pagination

namespace MemoryStore

variable {s : MemoryStore}

/-! ## The order of results -/

theorem createdBefore_of_before {a b : StoredRecord} (h : a.Before b) :
    createdBefore a b = true := by
  rw [StoredRecord.before_iff] at h
  rw [createdBefore_iff]
  omega

/-- Two live records each created no later than the other are one record: they share a
sequence number. -/
theorem eq_of_createdBefore (h : Consistent s) {a b : StoredRecord} (ha : a ∈ s.records)
    (hb : b ∈ s.records) (hab : createdBefore a b = true) (hba : createdBefore b a = true) :
    a = b := by
  rw [createdBefore_iff] at hab hba
  exact List.inj_on_of_nodup_map h.seqs_nodup ha hb (by omega)

/-- Of two distinct live records, the one created no later comes strictly first. -/
theorem before_of_createdBefore (h : Consistent s) {a b : StoredRecord} (ha : a ∈ s.records)
    (hb : b ∈ s.records) (hne : a ≠ b) (hab : createdBefore a b = true) : a.Before b := by
  have hseq : a.seq ≠ b.seq := fun heq => hne (List.inj_on_of_nodup_map h.seqs_nodup ha hb heq)
  rw [createdBefore_iff] at hab
  rw [StoredRecord.before_iff]
  omega

/-- The matches of a query, ordered, are any strictly ordered arrangement of them. -/
theorem mergeSort_matches_eq (h : Consistent s) (q : RecordQuery) {L : List StoredRecord}
    (hperm : L.Perm (s.records.filter (q.matches ·.record)))
    (hsorted : L.Pairwise StoredRecord.Before) :
    ((s.candidates q).filter (q.matches ·.record)).mergeSort createdBefore = L := by
  have hmatches := filter_candidates_perm h q
  refine List.Perm.eq_of_pairwise ?_
    (List.pairwise_mergeSort createdBefore_trans createdBefore_total _)
    (hsorted.imp createdBefore_of_before)
    ((List.mergeSort_perm _ _).trans (hmatches.trans hperm.symm))
  intro a b ha hb hab hba
  have ha' : a ∈ s.records :=
    List.mem_of_mem_filter (hmatches.subset ((List.mergeSort_perm _ _).subset ha))
  have hb' : b ∈ s.records := List.mem_of_mem_filter (hperm.subset hb)
  exact eq_of_createdBefore h ha' hb' hab hba

/-- The matches of a query can be strictly ordered: sorted, as distinct live records never
tie. -/
theorem exists_sorted_matches (h : Consistent s) (q : RecordQuery) :
    ∃ L : List StoredRecord, L.Perm (s.records.filter (q.matches ·.record)) ∧
      L.Pairwise StoredRecord.Before := by
  set M := s.records.filter (q.matches ·.record)
  have hperm := List.mergeSort_perm M createdBefore
  have hnodup : (M.mergeSort createdBefore).Nodup :=
    hperm.nodup_iff.mpr ((List.Nodup.of_map _ h.outpoints_nodup).filter _)
  have hlive : ∀ r ∈ M.mergeSort createdBefore, r ∈ s.records := fun r hr =>
    List.mem_of_mem_filter (hperm.subset hr)
  refine ⟨M.mergeSort createdBefore, hperm, ?_⟩
  refine ((List.pairwise_mergeSort createdBefore_trans createdBefore_total M).and
    hnodup).imp_of_mem ?_
  rintro a b ha hb ⟨hab, hne⟩
  exact before_of_createdBefore h (hlive a ha) (hlive b hb) hne hab

/-- An arrangement of the matches holds each outpoint once. -/
theorem nodup_outpoints_of_perm (h : Consistent s) {p : StoredRecord → Bool}
    {L : List StoredRecord} (hperm : L.Perm (s.records.filter p)) :
    (L.map (·.record.outpoint)).Nodup :=
  (hperm.map _).nodup_iff.mpr (List.Nodup.sublist (List.filter_sublist.map _) h.outpoints_nodup)

/-! ## The answer -/

/-- **The answer of a query.** On a consistent store, a query answers the window of the
outpoints of the strictly ordered arrangement of its matches, oldest first or newest first as
asked. -/
theorem find_eq_window_orient (h : Consistent s) (q : RecordQuery) {L : List StoredRecord}
    (hperm : L.Perm (s.records.filter (q.matches ·.record)))
    (hsorted : L.Pairwise StoredRecord.Before) :
    s.find q =
      q.pagination.window (q.pagination.sortOrder.orient (L.map (·.record.outpoint))) := by
  unfold find
  rw [mergeSort_matches_eq h q hperm hsorted]
  cases hso : q.pagination.sortOrder <;> simp [SortOrder.orient, List.map_reverse]

/-- Consistent stores holding the same records answer alike, whatever order they keep them in
and whether or not their indexes are built. -/
theorem find_eq_of_perm {s' : MemoryStore} (h : Consistent s) (h' : Consistent s')
    (hp : s'.records.Perm s.records) (q : RecordQuery) : s'.find q = s.find q := by
  obtain ⟨L, hperm, hsorted⟩ := exists_sorted_matches h q
  have hperm' : L.Perm (s'.records.filter (q.matches ·.record)) :=
    hperm.trans (hp.filter _).symm
  rw [find_eq_window_orient h' q hperm' hsorted, find_eq_window_orient h q hperm hsorted]

/-- A query answers its window of the answer with no window. -/
theorem find_eq_window_unpaged (q : RecordQuery) :
    s.find q = q.pagination.window (s.find (q.withWindow none 0)) := by
  -- the candidates and the filter read no part of the window, and no window keeps everything
  rfl

/-- Pages of `l` results, skipping `0, l, 2 l, …`, put together give the answer with no
window. -/
theorem find_pages (q : RecordQuery) {l : Nat} (hl : 0 < l) {n : Nat}
    (hlen : (s.find (q.withWindow none 0)).length ≤ n * l) :
    (List.range n).flatMap (fun i => s.find (q.withWindow (some l) (i * l))) =
      s.find (q.withWindow none 0) := by
  have hpage : ∀ i, s.find (q.withWindow (some l) (i * l)) =
      ({ q.pagination with limit := some l, skip := i * l } : Pagination).window
        (s.find (q.withWindow none 0)) := fun i =>
    find_eq_window_unpaged (q.withWindow (some l) (i * l))
  simp only [hpage]
  exact Pagination.window_pages _ hl _ hlen

/-- **What a query answers**, on every store a run of writes reaches. The matching live records
have a strictly ordered arrangement (creation time, then sequence number); for any such
arrangement the answer is the window of its outpoints, each once, oldest first or newest first
as asked; every consistent store holding the same records, in any order, answers alike; and for
every page size `l > 0` the pages skipping `0, l, 2 l, …` put together give the answer with no
window. -/
theorem find_run_sorted_matches (ops : List StoreOp) (q : RecordQuery) :
    (∃ L : List StoredRecord, L.Perm ((run ops).records.filter (q.matches ·.record)) ∧
      L.Pairwise StoredRecord.Before) ∧
    (∀ L : List StoredRecord, L.Perm ((run ops).records.filter (q.matches ·.record)) →
      L.Pairwise StoredRecord.Before →
      (L.map (·.record.outpoint)).Nodup ∧
        (run ops).find q =
          q.pagination.window (q.pagination.sortOrder.orient (L.map (·.record.outpoint)))) ∧
    (∀ s : MemoryStore, Consistent s → s.records.Perm (run ops).records →
      s.find q = (run ops).find q) ∧
    (∀ l, 0 < l → ∀ n, ((run ops).find (q.withWindow none 0)).length ≤ n * l →
      (List.range n).flatMap (fun i => (run ops).find (q.withWindow (some l) (i * l))) =
        (run ops).find (q.withWindow none 0)) := by
  have h := consistent_run ops
  refine ⟨exists_sorted_matches h q, ?_, ?_, ?_⟩
  · intro L hperm hsorted
    exact ⟨nodup_outpoints_of_perm h hperm, find_eq_window_orient h q hperm hsorted⟩
  · intro s' h' hp
    exact find_eq_of_perm h h' hp q
  · intro l hl n hlen
    exact find_pages q hl hlen

/-- An advertisement of `tm_topic` at `domain`, at output 0 of the `n`-th transaction. -/
def topicEntry (n : Nat) : RecordEntry := ⟨⟨Txid.ofIndex n, 0⟩, "key", "domain", "tm_topic"⟩

/-- The first advertisement stored, a second stored at the same instant, and the first stored
again: the two records tie on creation time and are told apart by their writes. -/
def sameInstantWrites : List StoreOp :=
  [.store (topicEntry 1) 7, .store (topicEntry 2) 7, .store (topicEntry 1) 7]

/-- The query that pins the domain and the topic, newest first. -/
def topicQuery : RecordQuery := { domain := some "domain", topics := some ["tm_topic"] }

/-- The records of those writes in the order of results. -/
def sameInstantOrder : List StoredRecord :=
  [⟨.ofEntry (topicEntry 2) 7, 1⟩, ⟨.ofEntry (topicEntry 1) 7, 2⟩]

theorem find_run_sorted_matches_same_instant :
    (sameInstantOrder.Perm
        ((run sameInstantWrites).records.filter (topicQuery.matches ·.record)) ∧
      sameInstantOrder.Pairwise StoredRecord.Before ∧
      (sameInstantOrder.map (·.record.outpoint)).Nodup ∧
      (run sameInstantWrites).find topicQuery = topicQuery.pagination.window
        (topicQuery.pagination.sortOrder.orient (sameInstantOrder.map (·.record.outpoint)))) ∧
    (Consistent (run (sameInstantWrites ++ [.ensureIndexes])) ∧
      (run (sameInstantWrites ++ [.ensureIndexes])).records.Perm (run sameInstantWrites).records ∧
      (run (sameInstantWrites ++ [.ensureIndexes])).find topicQuery =
        (run sameInstantWrites).find topicQuery) ∧
    (0 < 1 ∧ ((run sameInstantWrites).find (topicQuery.withWindow none 0)).length ≤ 2 * 1 ∧
      (List.range 2).flatMap
        (fun i => (run sameInstantWrites).find (topicQuery.withWindow (some 1) (i * 1))) =
        (run sameInstantWrites).find (topicQuery.withWindow none 0)) :=
  have hperm : sameInstantOrder.Perm
      ((run sameInstantWrites).records.filter (topicQuery.matches ·.record)) := by decide
  have hsorted : sameInstantOrder.Pairwise StoredRecord.Before := by decide
  have hspec := find_run_sorted_matches sameInstantWrites topicQuery
  have hindexed : (run (sameInstantWrites ++ [.ensureIndexes])).records.Perm
      (run sameInstantWrites).records := by decide
  -- the answer with no window is counted on the arrangement the theorem gives it
  have hlen : ((run sameInstantWrites).find (topicQuery.withWindow none 0)).length ≤ 2 * 1 := by
    rw [((find_run_sorted_matches sameInstantWrites (topicQuery.withWindow none 0)).2.1 _ hperm
      hsorted).2]
    decide
  ⟨⟨hperm, hsorted, hspec.2.1 _ hperm hsorted⟩,
    ⟨consistent_run _, hindexed, hspec.2.2.1 _ (consistent_run _) hindexed⟩,
    ⟨Nat.one_pos, hlen, hspec.2.2.2 1 Nat.one_pos 2 hlen⟩⟩

end MemoryStore

end ShipSlap.Store
