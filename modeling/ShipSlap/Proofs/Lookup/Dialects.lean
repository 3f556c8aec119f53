import Mathlib
import ShipSlap.Proofs.Lookup.QueryMembers
import ShipSlap.Proofs.Lookup.Run
import ShipSlap.Proofs.Store.Answer
/-!
The query dialects of a lookup service. A query is the text `findAll`, the legacy dialect, or an
object whose members are read in name order into a raw query and then checked. Main statement:
`lookup_dialects`, for a service over any store a run from the empty store reaches:

1. the legacy query, `{}` and `{"findAll": true}` all ask the store its default query, which
   answers every live record, newest first (`MemoryStore.find_default`);
2. with `findAll` set, filters change nothing that is asked (`parseStructured_filters_findAll`):
   the checks read the window alone (`check_eq_window`), and the filters, read last, leave it;
3. the spelling `services` reads as `topics` when the list reads, or when every sort order does
   (`parseStructured_services_eq_topics`); otherwise both are refused as malformed
   (`parseStructured_malformed`), and the messages can differ
   (`lookup_services_topics_differ`): the first member in name order that does not read is the
   one reported, and `sortOrder` sorts between the two spellings.

The arguments move members to the end of the reading, by `foldlM_sortedMembers_cons` and
`foldlM_sortedMembers_append`.
-/
namespace ShipSlap.Lookup

open ShipSlap.Store RawQuery

/-! ## Fields and names -/

/-- No name but the two spellings of `topics` stands for that field. -/
theorem fieldOf_ne_topics {n : String} (ht : n ≠ "topics") (hs : n ≠ "services") :
    fieldOf n ≠ some "topics" := by
  intro h
  rcases name_of_fieldOf h with h | ⟨h, -⟩
  · exact ht h
  · exact hs h

/-- A name other than `services` stands for the field it names, if any. -/
theorem fieldOf_eq_some_self {n f : String} (hs : n ≠ "services") (h : fieldOf n = some f) :
    n = f := by
  rcases name_of_fieldOf h with h | ⟨h, -⟩
  · exact h
  · exact absurd h hs

/-- Of the fields, only `topics`, `skip` and `sortOrder` sort at or after `services`. -/
theorem field_cases_services {f : String} (h : fieldOf f = some f) :
    f = "topics" ∨ f = "skip" ∨ f = "sortOrder" ∨ f < "services" := by
  rcases fieldOf_eq_some h with rfl | rfl | rfl | rfl | rfl | rfl | rfl <;> decide

/-- Of the fields, only `topics` sorts at or after `topics`. -/
theorem field_cases_topics {f : String} (h : fieldOf f = some f) : f = "topics" ∨ f < "topics" := by
  rcases fieldOf_eq_some h with rfl | rfl | rfl | rfl | rfl | rfl | rfl <;> decide

theorem unread_empty (m : String × Json) : Unread {} m := fun _ _ h => by cases h

theorem apart_of_ne {x y : String × Json} (hne : x.1 ≠ y.1) (hx : x.1 ≠ "services")
    (hy : y.1 ≠ "services") : Apart x y := by
  intro f hxf hyf
  exact hne ((fieldOf_eq_some_self hx hxf).trans (fieldOf_eq_some_self hy hyf).symm)

/-! ## Values that read -/

theorem asString_eq_ok {j : Json} {s : String} : Json.asString j = .ok s ↔ j = .str s := by
  cases j <;> simp [Json.asString]

theorem asArray_eq_ok {j : Json} {items : List Json} :
    Json.asArray j = .ok items ↔ j = .arr items := by
  cases j <;> simp [Json.asArray]

/-- A value that may be `null` reads as nothing when it is `null`, and otherwise as what it reads
to. -/
theorem asOption_eq_ok {α : Type} {f : Json → Except DecodeError α} {j : Json} {o : Option α} :
    Json.asOption f j = .ok o ↔
      j = .null ∧ o = none ∨ j ≠ .null ∧ ∃ a, f j = .ok a ∧ some a = o := by
  cases j with
  | null => simp [Json.asOption, eq_comm]
  | _ => simp [Json.asOption, map_eq_ok]

theorem mapM_asString_map (ts : List String) : (ts.map Json.str).mapM Json.asString = .ok ts := by
  induction ts with
  | nil => rfl
  | cons t ts ih =>
    rw [List.map_cons, List.mapM_cons, ih]
    rfl

theorem eq_map_str_of_mapM_asString : ∀ {js : List Json} {ts : List String},
    js.mapM Json.asString = .ok ts → js = ts.map .str
  | [], ts, h => by
    cases h
    rfl
  | j :: js, ts, h => by
    rw [List.mapM_cons] at h
    cases hj : Json.asString j with
    | error e =>
      rw [hj] at h
      cases h
    | ok s =>
      cases hm : js.mapM Json.asString with
      | error e =>
        rw [hj, hm] at h
        cases h
      | ok ts' =>
        rw [hj, hm] at h
        cases h
        rw [Iff.mp asString_eq_ok hj, eq_map_str_of_mapM_asString hm]
        rfl

/-- A list of topics reads exactly when it is `null` or an array of texts. -/
theorem reads_topics_iff (v : Json) :
    Reads ("topics", v) ↔ v = .null ∨ ∃ ts : List String, v = .arr (ts.map .str) := by
  have hf : fieldOf "topics" = some "topics" := by decide
  rw [reads_iff_of_fieldOf hf, memberUpdate_topics]
  simp only [map_eq_ok]
  constructor
  · rintro ⟨u, o, ho, -⟩
    rcases Iff.mp asOption_eq_ok ho with ⟨rfl, -⟩ | ⟨-, ts, hts, -⟩
    · exact .inl rfl
    · cases ha : Json.asArray v with
      | error e =>
        rw [ha] at hts
        cases hts
      | ok items =>
        rw [ha] at hts
        exact .inr ⟨ts, by rw [Iff.mp asArray_eq_ok ha, eq_map_str_of_mapM_asString hts]⟩
  · rintro (rfl | ⟨ts, rfl⟩)
    · exact ⟨_, none, rfl, rfl⟩
    · exact ⟨_, some ts,
        Iff.mpr asOption_eq_ok (.inr ⟨Json.noConfusion, ts, mapM_asString_map ts, rfl⟩), rfl⟩

/-- A text reads as a domain, an identity key or a sort order. -/
theorem reads_str {f : String} (hf : f = "domain" ∨ f = "identityKey" ∨ f = "sortOrder")
    (s : String) : Reads (f, .str s) := by
  intro g hg
  obtain rfl : f = g :=
    fieldOf_eq_some_self (by rcases hf with rfl | rfl | rfl <;> decide) hg
  rcases hf with rfl | rfl | rfl <;>
    simp only [memberUpdate_domain, memberUpdate_identityKey, memberUpdate_sortOrder, map_eq_ok] <;>
    exact ⟨_, _, rfl, rfl⟩

/-- A sort order reads exactly when it is `null` or a text. -/
theorem reads_sortOrder_iff (j : Json) :
    Reads ("sortOrder", j) ↔ j = .null ∨ ∃ s, j = .str s := by
  have hf : fieldOf "sortOrder" = some "sortOrder" := by decide
  rw [reads_iff_of_fieldOf hf, memberUpdate_sortOrder]
  simp only [map_eq_ok]
  constructor
  · rintro ⟨u, o, ho, -⟩
    rcases Iff.mp asOption_eq_ok ho with ⟨rfl, -⟩ | ⟨-, s, hs, -⟩
    · exact .inl rfl
    · exact .inr ⟨s, Iff.mp asString_eq_ok hs⟩
  · rintro (rfl | ⟨s, rfl⟩)
    · exact ⟨_, none, rfl, rfl⟩
    · exact ⟨_, some s, rfl, rfl⟩

/-- A skip reads whatever its value: it is checked later. -/
theorem reads_skip (j : Json) : Reads ("skip", j) := by
  have hf : fieldOf "skip" = some "skip" := by decide
  rw [reads_iff_of_fieldOf hf, memberUpdate_skip]
  exact ⟨_, rfl⟩

/-! ## What the store is asked -/

/-- Reading a structured query: its members in name order, then the checks. -/
theorem parseStructured_eq (ms : List (String × Json)) : parseStructured ms =
    (((Json.sortedMembers ms).foldlM RawQuery.read {}).mapError fun e => .malformed e.message) >>=
      RawQuery.check := rfl

theorem LookupQuery.parse_obj (ms : List (String × Json)) :
    LookupQuery.parse (.obj ms) = ((parseStructured ms).map .structured).mapError .query := rfl

/-- The store query a lookup query asks: the legacy query everything in the default window, a
structured query with `findAll` everything in its own window, and any other its filters. -/
def LookupQuery.recordQuery : LookupQuery → RecordQuery
  | .legacy => {}
  | .structured sq => if sq.findAll then { pagination := sq.pagination } else sq.toRecordQuery

namespace LookupService

/-- **Answering a question** addressed to the service: the query is read, and the store is asked
the record query of what was read. -/
theorem lookup_eq (svc : LookupService) {q : Json} (hq : q ≠ .null) :
    svc.lookup ⟨svc.protocol.lookupService, q⟩ =
      (LookupQuery.parse q).bind fun lq => (svc.backend.find lq.recordQuery).mapError .store := by
  cases q with
  | null => exact absurd rfl hq
  | _ =>
    simp only [lookup, bind, Except.bind, ne_eq, not_true_eq_false, if_false]
    cases LookupQuery.parse _ with
    | error e => rfl
    | ok lq => rfl

/-- A structured query is answered by what its reading asks the store. -/
theorem lookup_obj (svc : LookupService) (ms : List (String × Json)) :
    svc.lookup ⟨svc.protocol.lookupService, .obj ms⟩ =
      (((fun sq => (LookupQuery.structured sq).recordQuery) <$> parseStructured ms).mapError
        .query).bind fun q => (svc.backend.find q).mapError .store := by
  rw [lookup_eq svc Json.noConfusion, LookupQuery.parse_obj]
  cases parseStructured ms <;> rfl

/-- Structured queries whose readings ask the store alike are answered alike. -/
theorem lookup_obj_congr (svc : LookupService) {ms ms' : List (String × Json)}
    (h : (fun sq => (LookupQuery.structured sq).recordQuery) <$> parseStructured ms =
      (fun sq => (LookupQuery.structured sq).recordQuery) <$> parseStructured ms') :
    svc.lookup ⟨svc.protocol.lookupService, .obj ms⟩ =
      svc.lookup ⟨svc.protocol.lookupService, .obj ms'⟩ := by
  rw [lookup_obj, lookup_obj, h]

variable {svc : LookupService} {s : MemoryStore}

/-- One event keeps a consistent memory store consistent. -/
theorem step_consistent (hmem : svc.backend = .memory s) (hs : MemoryStore.Consistent s)
    (ev : LookupEvent) : ∃ s', (svc.step ev).backend = .memory s' ∧ MemoryStore.Consistent s' := by
  cases ev with
  | admission e =>
    by_cases hadm : admissionOutcome svc.protocol e = .admitted
    · obtain ⟨htopic, entry, hentry⟩ := Iff.mp admissionOutcome_eq_admitted hadm
      rw [step_admission, receive_admitted hmem htopic hentry]
      exact ⟨_, rfl, MemoryStore.consistent_store hs _ _⟩
    · rw [step_admission_of_ne_admitted hmem hadm]
      exact ⟨s, hmem, hs⟩
  | spend o t =>
    rw [step_spend hmem]
    exact ⟨_, rfl, MemoryStore.consistent_delete hs o⟩
  | evict o =>
    rw [step_evict hmem]
    exact ⟨_, rfl, MemoryStore.consistent_delete hs o⟩
  | lookup q => exact ⟨s, hmem, hs⟩
  | setTime ms => exact ⟨s, hmem, hs⟩
  | advance ms => exact ⟨s, hmem, hs⟩

/-- A run keeps a consistent memory store consistent. -/
theorem run_consistent (hmem : svc.backend = .memory s) (hs : MemoryStore.Consistent s)
    (evs : List LookupEvent) :
    ∃ s', (svc.run evs).backend = .memory s' ∧ MemoryStore.Consistent s' := by
  induction evs using List.reverseRecOn with
  | nil => exact ⟨s, hmem, hs⟩
  | append_singleton evs ev ih =>
    obtain ⟨s', hmem', hs'⟩ := ih
    rw [run_append_singleton]
    exact step_consistent hmem' hs' ev

end LookupService

/-- **The default query answers every live record, newest first.** -/
theorem MemoryStore.find_default (h : MemoryStore.Consistent s) :
    ∃ L : List StoredRecord, L.Perm s.records ∧ L.Pairwise StoredRecord.Before ∧
      s.find {} = (L.map (·.record.outpoint)).reverse := by
  obtain ⟨L, hperm, hsorted⟩ := MemoryStore.exists_sorted_matches h {}
  -- no filter is set: every record matches
  have hall : s.records.filter (RecordQuery.matches {} ·.record) = s.records :=
    List.filter_eq_self.mpr fun _ _ => rfl
  rw [hall] at hperm
  refine ⟨L, hperm, hsorted, ?_⟩
  rw [MemoryStore.find_eq_window_orient h {} (by rwa [hall]) hsorted]
  rfl

theorem parse_legacy : LookupQuery.parse (.str "findAll") = .ok .legacy := rfl

theorem parse_empty : LookupQuery.parse (.obj []) = .ok (.structured {}) := by
  rw [LookupQuery.parse_obj, parseStructured_eq, Json.sortedMembers_nil]
  rfl

theorem parse_findAll : LookupQuery.parse (.obj [("findAll", .bool true)]) =
    .ok (.structured { findAll := true }) := by
  rw [LookupQuery.parse_obj, parseStructured_eq, Json.sortedMembers_singleton]
  rfl

/-! ## The two spellings of `topics` -/

section Spelling

variable {ms : List (String × Json)} (hms : ∀ m ∈ ms, m.1 ≠ "topics" ∧ m.1 ≠ "services")
include hms

theorem apart_topics (v : Json) {n : String} (hn : fieldOf n = some "topics") :
    ∀ x ∈ ms, Apart (n, v) x := by
  intro x hx f hf
  rw [hn] at hf
  cases hf
  exact fieldOf_ne_topics (hms x hx).1 (hms x hx).2

theorem namesApart_of_no_topics : NamesApart ms :=
  fun x hx y hy hne => apart_of_ne hne (hms x hx).2 (hms y hy).2

/-- Past `services` a query without `topics` has only `skip`, `sortOrder` and names of no field;
they read when the sort orders do. -/
theorem reads_of_services_le (hsort : ∀ j, ("sortOrder", j) ∈ ms → Reads ("sortOrder", j)) :
    ∀ x ∈ ms, "services" ≤ x.1 → Reads x ∧ Unread {} x := by
  rintro ⟨n, j⟩ hx hle
  refine ⟨?_, unread_empty _⟩
  cases hf : fieldOf n with
  | none => exact reads_of_fieldOf_none hf
  | some f =>
    obtain rfl : n = f := fieldOf_eq_some_self (hms _ hx).2 hf
    rcases field_cases_services hf with rfl | rfl | rfl | hlt
    · exact absurd rfl (hms _ hx).1
    · exact reads_skip j
    · exact hsort j hx
    · exact absurd hle (not_le.mpr hlt)

/-- Past `topics` a query without `topics` has only names of no field. -/
theorem reads_of_topics_le : ∀ x ∈ ms, "topics" ≤ x.1 → Reads x ∧ Unread {} x := by
  rintro ⟨n, j⟩ hx hle
  refine ⟨?_, unread_empty _⟩
  cases hf : fieldOf n with
  | none => exact reads_of_fieldOf_none hf
  | some f =>
    obtain rfl : n = f := fieldOf_eq_some_self (hms _ hx).2 hf
    rcases field_cases_topics hf with rfl | hlt
    · exact absurd rfl (hms _ hx).1
    · exact absurd hle (not_le.mpr hlt)

/-- **The two spellings of `topics` read alike** when the value of the list reads, or when every
sort order does: then the members between the two places, `skip` and `sortOrder` among them,
read either way, and the list read last is the same list. -/
theorem parseStructured_services_eq_topics (v : Json)
    (hreads : Reads ("topics", v) ∨ ∀ j, ("sortOrder", j) ∈ ms → Reads ("sortOrder", j)) :
    parseStructured (("services", v) :: ms) = parseStructured (("topics", v) :: ms) := by
  have hS : fieldOf "services" = some "topics" := by decide
  have hT : fieldOf "topics" = some "topics" := by decide
  -- each spelling is as good as read last, where the two read alike
  have hs : Agree ((Json.sortedMembers (("services", v) :: ms)).foldlM read {})
      ((Json.sortedMembers ms ++ [("services", v)]).foldlM read {}) := by
    refine foldlM_sortedMembers_cons (fun x hx => (hms x hx).2) (apart_topics hms v hS) ?_
    rcases hreads with hv | hsort
    · exact .inl ⟨(reads_congr (hS.trans hT.symm) rfl).mpr hv, unread_empty _⟩
    · exact .inr ⟨reads_of_services_le hms hsort, namesApart_of_no_topics hms⟩
  have ht : Agree ((Json.sortedMembers (("topics", v) :: ms)).foldlM read {})
      ((Json.sortedMembers ms ++ [("topics", v)]).foldlM read {}) := by
    refine foldlM_sortedMembers_cons (fun x hx => (hms x hx).1) (apart_topics hms v hT) ?_
    rcases hreads with hv | -
    · exact .inl ⟨hv, unread_empty _⟩
    · exact .inr ⟨reads_of_topics_le hms, namesApart_of_no_topics hms⟩
  have hread : ∀ r : RawQuery, r.read ("services", v) = r.read ("topics", v) :=
    fun _ => read_congr (hS.trans hT.symm) rfl
  have hlast : (Json.sortedMembers ms ++ [("services", v)]).foldlM read ({} : RawQuery) =
      (Json.sortedMembers ms ++ [("topics", v)]).foldlM read {} := by
    simp only [List.foldlM_append, List.foldlM_cons, List.foldlM_nil, hread]
  rw [hlast] at hs
  exact (hs.trans ht.symm).check_eq _

end Spelling

/-- A query with a member of a name no other has that does not read is malformed. -/
theorem parseStructured_malformed {m : String × Json} {ms : List (String × Json)}
    (hfresh : ∀ x ∈ ms, x.1 ≠ m.1) (hm : ¬ Reads m) :
    ∃ e, parseStructured (m :: ms) = .error (.malformed e) := by
  have hmem : m ∈ Json.sortedMembers (m :: ms) := by
    rw [Json.sortedMembers_cons_fresh hfresh]
    exact (List.mem_orderedInsert _).mpr (.inl rfl)
  rw [parseStructured_eq]
  cases h : (Json.sortedMembers (m :: ms)).foldlM read {} with
  | error e => exact ⟨e.message, rfl⟩
  | ok r => exact absurd (reads_of_foldlM_eq_ok h m hmem) hm

/-! ## Filters under `findAll` -/

/-- The parts of a raw query that a `findAll` query is answered by: `findAll` and the window. -/
def RawQuery.windowOf (r : RawQuery) : RawQuery :=
  { findAll := r.findAll, limit := r.limit, skip := r.skip, sortOrder := r.sortOrder }

/-- The checks read the window alone; the rest of a raw query is copied into the result. -/
theorem check_eq_window (r : RawQuery) :
    r.check = (fun sq => { sq with
        findAll := r.findAll.getD false, domain := r.domain, topics := r.topics,
        identityKey := r.identityKey }) <$> r.windowOf.check := by
  -- the checks branch on the window; in each branch the result is built last
  obtain ⟨fa, d, t, i, l, sk, so, seen⟩ := r
  cases l <;> cases sk <;> cases so <;>
    simp only [RawQuery.check, RawQuery.windowOf, map_bind, map_pure]

/-- A raw query with `findAll` set asks the store what its window asks. -/
theorem recordQuery_check {r : RawQuery} (h : r.findAll = some true) :
    (fun sq => (LookupQuery.structured sq).recordQuery) <$> r.check =
      (fun sq => (LookupQuery.structured sq).recordQuery) <$> r.windowOf.check := by
  have hw : r.windowOf.findAll = some true := h
  have hwin : r.windowOf.windowOf = r.windowOf := rfl
  -- both results have `findAll` set, and then only their window is asked
  calc (fun sq => (LookupQuery.structured sq).recordQuery) <$> r.check
      = (fun sq => ({ pagination := sq.pagination } : RecordQuery)) <$> r.windowOf.check := by
        rw [check_eq_window r, ← comp_map]
        congr 1
        funext sq
        simp [LookupQuery.recordQuery, h]
    _ = (fun sq => (LookupQuery.structured sq).recordQuery) <$> r.windowOf.check := by
        conv_rhs => rw [check_eq_window r.windowOf, hwin]
        rw [← comp_map]
        congr 1
        funext sq
        simp [LookupQuery.recordQuery, hw]

/-- The filter members of a query: a domain, a list of topics and an identity key, each when
given. -/
def filterMembers (domain : Option String) (topics : Option (List String))
    (identityKey : Option String) : List (String × Json) :=
  (domain.map fun d => ("domain", Json.str d)).toList ++
    (topics.map fun ts => ("topics", Json.arr (ts.map .str))).toList ++
    (identityKey.map fun k => ("identityKey", Json.str k)).toList

/-- Every filter member names a filter field and reads. -/
theorem mem_filterMembers {d : Option String} {t : Option (List String)} {i : Option String}
    {m : String × Json} (h : m ∈ filterMembers d t i) :
    (m.1 = "domain" ∨ m.1 = "topics" ∨ m.1 = "identityKey") ∧ Reads m := by
  simp only [filterMembers, List.mem_append, Option.mem_toList, Option.map_eq_some_iff] at h
  rcases h with (⟨d, -, rfl⟩ | ⟨ts, -, rfl⟩) | ⟨k, -, rfl⟩
  · exact ⟨.inl rfl, reads_str (.inl rfl) d⟩
  · exact ⟨.inr (.inl rfl), (reads_topics_iff _).mpr (.inr ⟨ts, rfl⟩)⟩
  · exact ⟨.inr (.inr rfl), reads_str (.inr (.inl rfl)) k⟩

theorem nodup_names_filterMembers (d : Option String) (t : Option (List String))
    (i : Option String) :
    ((filterMembers d t i ++ [("findAll", Json.bool true)]).map (·.1)).Nodup := by
  cases d <;> cases t <;> cases i <;> simp [filterMembers]

/-- Reading a filter member leaves the window as it was. -/
theorem windowOf_read_filter {r r₁ : RawQuery} {m : String × Json}
    (hname : m.1 = "domain" ∨ m.1 = "topics" ∨ m.1 = "identityKey") (h : r.read m = .ok r₁) :
    r₁.windowOf = r.windowOf := by
  have hf : fieldOf m.1 = some m.1 := by
    rcases hname with h | h | h <;> rw [h] <;> decide
  obtain ⟨-, u, hu, rfl⟩ := read_eq_ok_of_fieldOf hf h
  -- a filter update sets its filter; the updates of the window are of other names
  rcases memberUpdate_eq_ok hu with ⟨hm, v, rfl⟩ | ⟨hm, v, rfl⟩ | ⟨hm, v, rfl⟩ | ⟨hm, v, rfl⟩ |
    ⟨hm, v, rfl⟩ | ⟨hm, v, rfl⟩ | ⟨hm, v, rfl⟩ | rfl
  all_goals first
    | rfl
    | (rw [hm] at hname; exact absurd hname (by decide))

/-- Reading filter members of different fields, unread, succeeds and leaves the window. -/
theorem foldlM_filters : ∀ {L : List (String × Json)} {r : RawQuery},
    (∀ m ∈ L, (m.1 = "domain" ∨ m.1 = "topics" ∨ m.1 = "identityKey") ∧ Reads m ∧ Unread r m) →
    L.Pairwise Apart → ∃ r', L.foldlM read r = .ok r' ∧ r'.windowOf = r.windowOf
  | [], r, _, _ => ⟨r, rfl, rfl⟩
  | m :: L, r, hL, hpair => by
    obtain ⟨hname, hm, hr⟩ := hL m (List.mem_cons_self ..)
    obtain ⟨r₁, h₁⟩ := read_eq_ok_of_reads hm hr
    obtain ⟨hmL, hpairL⟩ := List.pairwise_cons.mp hpair
    -- the rest is still unread: `m` recorded a field none of them has
    have hrest : ∀ x ∈ L, (x.1 = "domain" ∨ x.1 = "topics" ∨ x.1 = "identityKey") ∧ Reads x ∧
        Unread r₁ x := fun x hx =>
      have hx' := hL x (List.mem_cons_of_mem _ hx)
      ⟨hx'.1, hx'.2.1, hx'.2.2.of_read (hmL x hx) h₁⟩
    obtain ⟨r', h', hw'⟩ := foldlM_filters hrest hpairL
    refine ⟨r', ?_, hw'.trans (windowOf_read_filter hname h₁)⟩
    rw [List.foldlM_cons, h₁]
    exact h'

theorem reads_findAll : Reads ("findAll", Json.bool true) := by
  have hf : fieldOf "findAll" = some "findAll" := by decide
  rw [reads_iff_of_fieldOf hf, memberUpdate_findAll]
  exact ⟨_, rfl⟩

section FindAllFilters

variable {d : Option String} {t : Option (List String)} {i : Option String}
  {m : String × Json}

/-- The filter members and `findAll` name fields of their own, and read. -/
theorem mem_filterMembers_findAll (hm : m ∈ filterMembers d t i ++ [("findAll", Json.bool true)]) :
    (m.1 = "domain" ∨ m.1 = "topics" ∨ m.1 = "identityKey" ∨ m.1 = "findAll") ∧ Reads m := by
  rcases List.mem_append.mp hm with hm | hm
  · obtain ⟨hname, hreads⟩ := mem_filterMembers hm
    rcases hname with h | h | h
    · exact ⟨.inl h, hreads⟩
    · exact ⟨.inr (.inl h), hreads⟩
    · exact ⟨.inr (.inr (.inl h)), hreads⟩
  · rw [List.mem_singleton.mp hm]
    exact ⟨.inr (.inr (.inr rfl)), reads_findAll⟩

theorem ne_services_of_mem_filterMembers_findAll
    (hm : m ∈ filterMembers d t i ++ [("findAll", Json.bool true)]) : m.1 ≠ "services" := by
  rcases (mem_filterMembers_findAll hm).1 with h | h | h | h <;> rw [h] <;> decide

/-- The filter members and `findAll` have different names and record different fields. -/
theorem pairwise_filterMembers_findAll (d : Option String) (t : Option (List String))
    (i : Option String) :
    (filterMembers d t i ++ [("findAll", Json.bool true)]).Pairwise
      (fun a b => b.1 ≠ a.1 ∧ Apart a b) := by
  refine (List.pairwise_map.mp (nodup_names_filterMembers d t i)).imp_of_mem ?_
  intro a b ha hb hab
  exact ⟨Ne.symm hab, apart_of_ne hab (ne_services_of_mem_filterMembers_findAll ha)
    (ne_services_of_mem_filterMembers_findAll hb)⟩

/-- A member of none of their names, nor `services`, has another name and field than the
filter members and `findAll`. -/
theorem apart_filterMembers_findAll {x : String × Json}
    (hx : x.1 ≠ "findAll" ∧ x.1 ≠ "domain" ∧ x.1 ≠ "topics" ∧ x.1 ≠ "services" ∧
      x.1 ≠ "identityKey")
    (hm : m ∈ filterMembers d t i ++ [("findAll", Json.bool true)]) : x.1 ≠ m.1 ∧ Apart m x := by
  obtain ⟨h1, h2, h3, h4, h5⟩ := hx
  have hne : x.1 ≠ m.1 := by
    rcases (mem_filterMembers_findAll hm).1 with h | h | h | h <;> rw [h] <;> assumption
  exact ⟨hne, apart_of_ne hne.symm (ne_services_of_mem_filterMembers_findAll hm) h4⟩

end FindAllFilters

/-- A query with `findAll` and filters reads as its other members read first, then `findAll`,
then the filters. -/
theorem parseStructured_filters_findAll_eq (d : Option String) (t : Option (List String))
    (i : Option String) {window : List (String × Json)}
    (hwin : ∀ x ∈ window, x.1 ≠ "findAll" ∧ x.1 ≠ "domain" ∧ x.1 ≠ "topics" ∧
      x.1 ≠ "services" ∧ x.1 ≠ "identityKey") :
    parseStructured (filterMembers d t i ++ ("findAll", .bool true) :: window) =
      (((Json.sortedMembers window ++ ("findAll", .bool true) :: (filterMembers d t i).reverse).foldlM
        read {}).mapError fun e => .malformed e.message) >>= RawQuery.check := by
  have h : Agree
      ((Json.sortedMembers ((filterMembers d t i ++ [("findAll", .bool true)]) ++ window)).foldlM
        read {})
      ((Json.sortedMembers window ++
        (filterMembers d t i ++ [("findAll", Json.bool true)]).reverse).foldlM read {}) :=
    foldlM_sortedMembers_append
      (fun m hm => ⟨(mem_filterMembers_findAll hm).2, unread_empty m,
        fun x hx => apart_filterMembers_findAll (hwin x hx) hm⟩)
      (pairwise_filterMembers_findAll d t i)
  rw [List.append_assoc, List.singleton_append, List.reverse_append, List.reverse_singleton,
    List.singleton_append] at h
  exact h.check_eq _

/-- After members that leave them unread, `findAll` and then the filters read, and the filters
leave the window as `findAll` set it. -/
theorem foldlM_findAll_filters (d : Option String) (t : Option (List String))
    (i : Option String) {r : RawQuery}
    (hunread : ∀ m ∈ filterMembers d t i ++ [("findAll", Json.bool true)], Unread r m) :
    ∃ r', (("findAll", Json.bool true) :: (filterMembers d t i).reverse).foldlM read r = .ok r' ∧
      r'.findAll = some true ∧
      r'.windowOf = { r with findAll := some true, seen := "findAll" :: r.seen }.windowOf := by
  have hpair := pairwise_filterMembers_findAll d t i
  have h₁ : r.read ("findAll", .bool true) =
      .ok { r with findAll := some true, seen := "findAll" :: r.seen } :=
    read_of_update (show fieldOf ("findAll", Json.bool true).1 = some "findAll" by decide)
      (hunread _ (List.mem_append_right _ (List.mem_singleton_self _)) "findAll" (by decide)) rfl
  -- the filters read after `findAll`: their fields are recorded by no member before them
  have hF : ∀ m ∈ (filterMembers d t i).reverse,
      (m.1 = "domain" ∨ m.1 = "topics" ∨ m.1 = "identityKey") ∧ Reads m ∧
        Unread { r with findAll := some true, seen := "findAll" :: r.seen } m := by
    intro m hm
    have hm' := List.mem_reverse.mp hm
    obtain ⟨hname, hreads⟩ := mem_filterMembers hm'
    have hapart : Apart m ("findAll", .bool true) :=
      ((List.pairwise_append.mp hpair).2.2 m hm' _ (List.mem_singleton_self _)).2
    exact ⟨hname, hreads, (hunread m (List.mem_append_left _ hm')).of_read hapart.symm h₁⟩
  have hpairF : (filterMembers d t i).reverse.Pairwise Apart :=
    List.pairwise_reverse.mpr ((List.pairwise_append.mp hpair).1.imp fun h => h.2.symm)
  obtain ⟨r', h', hw'⟩ := foldlM_filters hF hpairF
  refine ⟨r', ?_, congrArg RawQuery.findAll hw', hw'⟩
  rw [List.foldlM_cons, h₁]
  exact h'

/-- **Filters beside `findAll` change nothing that is asked**: a query with `findAll` and any
filters asks the store what the same query without the filters asks. Both readings come to
reading the other members first and then `findAll`, which the filters, read after it, leave
with the window as it was. -/
theorem parseStructured_filters_findAll (d : Option String) (t : Option (List String))
    (i : Option String) {window : List (String × Json)}
    (hwin : ∀ m ∈ window, m.1 ≠ "findAll" ∧ m.1 ≠ "domain" ∧ m.1 ≠ "topics" ∧
      m.1 ≠ "services" ∧ m.1 ≠ "identityKey") :
    (fun sq => (LookupQuery.structured sq).recordQuery) <$>
        parseStructured (filterMembers d t i ++ ("findAll", .bool true) :: window) =
      (fun sq => (LookupQuery.structured sq).recordQuery) <$>
        parseStructured (("findAll", .bool true) :: window) := by
  -- the query without filters is the one with the filters of nothing
  have eB : parseStructured (("findAll", .bool true) :: window) =
      (((Json.sortedMembers window ++
        ("findAll", .bool true) :: (filterMembers none none none).reverse).foldlM read {}).mapError
          fun e => .malformed e.message) >>= RawQuery.check :=
    parseStructured_filters_findAll_eq none none none hwin
  rw [parseStructured_filters_findAll_eq d t i hwin, eB]
  cases hw : (Json.sortedMembers window).foldlM read {} with
  | error e =>
    -- the other members do not read: the same error both ways
    rw [List.foldlM_append, List.foldlM_append, hw]
    rfl
  | ok r =>
    have hunread : ∀ d t i, ∀ m ∈ filterMembers d t i ++ [("findAll", Json.bool true)],
        Unread r m := fun d t i m hm =>
      Unread.of_foldlM _ (unread_empty m)
        (fun x hx => (apart_filterMembers_findAll (hwin x (Json.mem_sortedMembers hx)) hm).2.symm)
        hw
    obtain ⟨r₁, h₁, hf₁, hw₁⟩ := foldlM_findAll_filters d t i (hunread d t i)
    obtain ⟨r₂, h₂, hf₂, hw₂⟩ := foldlM_findAll_filters none none none (hunread none none none)
    have hA : (Json.sortedMembers window ++
        ("findAll", .bool true) :: (filterMembers d t i).reverse).foldlM read {} = .ok r₁ := by
      rw [List.foldlM_append, hw]
      exact h₁
    have hB : (Json.sortedMembers window ++
        ("findAll", .bool true) :: (filterMembers none none none).reverse).foldlM read {} =
          .ok r₂ := by
      rw [List.foldlM_append, hw]
      exact h₂
    -- both ask what their window asks, and both windows are the one `findAll` set
    rw [hA, hB]
    show _ <$> r₁.check = _ <$> r₂.check
    rw [recordQuery_check hf₁, recordQuery_check hf₂, hw₁, hw₂]

/-! ## The dialects -/

/-- **The query dialects.** For a service of protocol `p` over a store reached by any run from
the empty store, asked on `p`'s lookup service:

1. the legacy `findAll`, the structured `{}` and `{"findAll": true}` all answer every live record,
   newest first;
2. with `findAll` set, filters for a domain, topics or an identity key change nothing, whatever
   the rest of the query;
3. `services` answers as `topics` does when its value is `null` or an array of texts, or when
   every sort order is `null` or a text;
4. otherwise both spellings are refused as malformed. The messages may differ: members are read
   in name order and the first that does not read is reported, so an ill-typed sort order comes
   between the two spellings. -/
theorem lookup_dialects (p : Protocol) (start : UInt64) (config : LookupConfig)
    (evs : List LookupEvent) :
    let svc := (⟨p, .memory {}, ⟨start⟩, config⟩ : LookupService).run evs
    let ask : Json → Except LookupError (List Outpoint) := fun q => svc.lookup ⟨p.lookupService, q⟩
    (ask (.str "findAll") = ask (.obj []) ∧ ask (.obj []) = ask (.obj [("findAll", .bool true)]) ∧
      ∃ (s : MemoryStore) (L : List StoredRecord), svc.backend = .memory s ∧ L.Perm s.records ∧
        L.Pairwise StoredRecord.Before ∧
        ask (.str "findAll") = .ok (L.map (·.record.outpoint)).reverse) ∧
    (∀ d t i (window : List (String × Json)),
      (∀ m ∈ window, m.1 ≠ "findAll" ∧ m.1 ≠ "domain" ∧ m.1 ≠ "topics" ∧ m.1 ≠ "services" ∧
        m.1 ≠ "identityKey") →
      ask (.obj (filterMembers d t i ++ ("findAll", .bool true) :: window)) =
        ask (.obj (("findAll", .bool true) :: window))) ∧
    (∀ (v : Json) (ms : List (String × Json)), (∀ m ∈ ms, m.1 ≠ "topics" ∧ m.1 ≠ "services") →
      ((v = .null ∨ ∃ ts : List String, v = .arr (ts.map .str)) ∨
        ∀ j, ("sortOrder", j) ∈ ms → j = .null ∨ ∃ s, j = .str s) →
      ask (.obj (("services", v) :: ms)) = ask (.obj (("topics", v) :: ms))) ∧
    (∀ (v : Json) (ms : List (String × Json)), (∀ m ∈ ms, m.1 ≠ "topics" ∧ m.1 ≠ "services") →
      ¬ (v = .null ∨ ∃ ts : List String, v = .arr (ts.map .str)) →
      (∃ e, ask (.obj (("services", v) :: ms)) = .error (.query (.malformed e))) ∧
      (∃ e, ask (.obj (("topics", v) :: ms)) = .error (.query (.malformed e)))) := by
  intro svc ask
  have hmem₀ : (⟨p, .memory {}, ⟨start⟩, config⟩ : LookupService).backend = .memory {} := rfl
  have hp : svc.protocol = p := (LookupService.run_memory hmem₀ evs).1
  obtain ⟨s, hmem, hs⟩ := LookupService.run_consistent hmem₀ MemoryStore.consistent_empty evs
  -- the service keeps its protocol: the questions are addressed to it
  have hask : ∀ q, ask q = svc.lookup ⟨svc.protocol.lookupService, q⟩ := fun q => by rw [hp]
  refine ⟨?_, ?_, ?_, ?_⟩
  · -- the three dialects ask the store its default query
    have hdefault : ∀ q lq, q ≠ .null → LookupQuery.parse q = .ok lq → lq.recordQuery = {} →
        ask q = .ok (s.find {}) := by
      intro q lq hq hparse hrq
      rw [hask, LookupService.lookup_eq svc hq, hparse]
      show (svc.backend.find lq.recordQuery).mapError LookupError.store = _
      rw [hrq, hmem]
      rfl
    have h1 := hdefault _ _ Json.noConfusion parse_legacy rfl
    have h2 := hdefault _ _ Json.noConfusion parse_empty rfl
    have h3 := hdefault _ _ Json.noConfusion parse_findAll rfl
    obtain ⟨L, hperm, hsorted, hfind⟩ := MemoryStore.find_default hs
    exact ⟨h1.trans h2.symm, h2.trans h3.symm, s, L, hmem, hperm, hsorted, by rw [h1, hfind]⟩
  · intro d t i window hwin
    rw [hask, hask]
    exact LookupService.lookup_obj_congr svc (parseStructured_filters_findAll d t i hwin)
  · intro v ms hms hreads
    rw [hask, hask, LookupService.lookup_obj, LookupService.lookup_obj,
      parseStructured_services_eq_topics hms v ?_]
    rcases hreads with hv | hsort
    · exact .inl ((reads_topics_iff v).mpr hv)
    · exact .inr fun j hj => (reads_sortOrder_iff j).mpr (hsort j hj)
  · intro v ms hms hv
    have hnot : ¬ Reads ("topics", v) := fun h => hv ((reads_topics_iff v).mp h)
    have hnot' : ¬ Reads ("services", v) := fun h =>
      hnot ((reads_congr (show fieldOf "services" = fieldOf "topics" by decide) rfl).mp h)
    obtain ⟨e, he⟩ := parseStructured_malformed (fun x hx => (hms x hx).2) hnot'
    obtain ⟨e', he'⟩ := parseStructured_malformed (fun x hx => (hms x hx).1) hnot
    refine ⟨⟨e, ?_⟩, ⟨e', ?_⟩⟩
    · rw [hask, LookupService.lookup_obj, he]
      rfl
    · rw [hask, LookupService.lookup_obj, he']
      rfl

/-- A list of topics answers alike under either spelling. -/
theorem lookup_dialects_services_list :
    let svc := (⟨.ship, .memory {}, ⟨0⟩, {}⟩ : LookupService).run []
    svc.lookup ⟨"ls_ship", .obj [("services", .arr [.str "tm_ship"])]⟩ =
      svc.lookup ⟨"ls_ship", .obj [("topics", .arr [.str "tm_ship"])]⟩ :=
  (lookup_dialects .ship 0 {} []).2.2.1 (.arr [.str "tm_ship"]) [] (fun _ h => by cases h)
    (.inl (.inr ⟨["tm_ship"], rfl⟩))

/-- Type errors that expect different kinds read differently. -/
theorem message_invalidType_ne {found e e' : String} (h : e ≠ e') :
    (DecodeError.invalidType found e).message ≠ (DecodeError.invalidType found e').message := by
  intro heq
  exact h ((String.append_right_inj _).mp heq)

/-- Members that do not read are reported in name order: `services` sorts before `sortOrder`. -/
theorem lookup_services_before_sortOrder (svc : LookupService) :
    svc.lookup ⟨svc.protocol.lookupService,
        .obj [("services", .num (.nat 5)), ("sortOrder", .num (.nat 5))]⟩ =
      .error (.query (.malformed
        (DecodeError.invalidType (Json.num (.nat 5)).unexpected "a sequence").message)) := by
  have hu : memberUpdate "topics" (.num (.nat 5)) =
      .error (.invalidType (Json.num (.nat 5)).unexpected "a sequence") := rfl
  have hsorted : Json.sortedMembers [("services", .num (.nat 5)), ("sortOrder", .num (.nat 5))] =
      [("services", .num (.nat 5)), ("sortOrder", .num (.nat 5))] := by
    rw [Json.sortedMembers_cons_fresh (by simp), Json.sortedMembers_singleton]
    rfl
  rw [LookupService.lookup_obj svc, parseStructured_eq, hsorted, List.foldlM_cons,
    read_of_update_error (show fieldOf "services" = some "topics" by decide) List.not_mem_nil hu]
  rfl

/-- Members that do not read are reported in name order: `sortOrder` sorts before `topics`. -/
theorem lookup_sortOrder_before_topics (svc : LookupService) :
    svc.lookup ⟨svc.protocol.lookupService,
        .obj [("topics", .num (.nat 5)), ("sortOrder", .num (.nat 5))]⟩ =
      .error (.query (.malformed
        (DecodeError.invalidType (Json.num (.nat 5)).unexpected "a string").message)) := by
  have hu : memberUpdate "sortOrder" (.num (.nat 5)) =
      .error (.invalidType (Json.num (.nat 5)).unexpected "a string") := rfl
  have hsorted : Json.sortedMembers [("topics", .num (.nat 5)), ("sortOrder", .num (.nat 5))] =
      [("sortOrder", .num (.nat 5)), ("topics", .num (.nat 5))] := by
    rw [Json.sortedMembers_cons_fresh (by simp), Json.sortedMembers_singleton]
    rfl
  rw [LookupService.lookup_obj svc, parseStructured_eq, hsorted, List.foldlM_cons,
    read_of_update_error (show fieldOf "sortOrder" = some "sortOrder" by decide)
      List.not_mem_nil hu]
  rfl

/-- A list of topics that is not a list, beside a sort order that is not a text: the `services`
spelling reports the list, and the `topics` spelling the sort order, read before it. -/
theorem lookup_services_topics_differ :
    let svc : LookupService := ⟨.ship, .memory {}, ⟨0⟩, {}⟩
    svc.lookup ⟨"ls_ship", .obj [("services", .num (.nat 5)), ("sortOrder", .num (.nat 5))]⟩ ≠
      svc.lookup ⟨"ls_ship", .obj [("topics", .num (.nat 5)), ("sortOrder", .num (.nat 5))]⟩ := by
  intro svc h
  have h1 : svc.lookup
      ⟨"ls_ship", .obj [("services", .num (.nat 5)), ("sortOrder", .num (.nat 5))]⟩ =
      .error (.query (.malformed
        (DecodeError.invalidType (Json.num (.nat 5)).unexpected "a sequence").message)) :=
    lookup_services_before_sortOrder svc
  have h2 : svc.lookup
      ⟨"ls_ship", .obj [("topics", .num (.nat 5)), ("sortOrder", .num (.nat 5))]⟩ =
      .error (.query (.malformed
        (DecodeError.invalidType (Json.num (.nat 5)).unexpected "a string").message)) :=
    lookup_sortOrder_before_topics svc
  rw [h1, h2] at h
  simp only [Except.error.injEq, LookupError.query.injEq, QueryError.malformed.injEq] at h
  exact message_invalidType_ne (by decide) h

end ShipSlap.Lookup
