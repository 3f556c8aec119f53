import Mathlib
import ShipSlap.Lookup.Query
/-!
The members of a structured query, read in name order. A query object is read as a sorted map
holds it: of equal names the last member, ordered by name (`Json.sortedMembers`). Each member is
then read into the raw query in turn; the first member that does not read ends the reading with
its error, and a field given twice (as `topics` and `services`) is refused.

What is proved here is how far the order of reading matters:

1. `sortedMembers_cons_fresh`: a member whose name no other has goes in among the sorted members
   of the others at its place by name.
2. `read_comm`: two members of different fields read alike in either order when one of them
   reads and is unread. The raw queries then agree but for the order in which the fields were
   recorded (`Agree`), which no check looks at (`Agree.check_eq`).
3. `foldlM_move`, `foldlM_insert`: a member can be read later, past members of other fields,
   when it reads, or when every member it is moved past reads.
4. `foldlM_sortedMembers_cons`, `foldlM_sortedMembers_append`: fresh members that read are as
   good as read last.

Reading one member is a field update that does not look at the raw query (`read_eq`,
`memberUpdate`), and updates of different fields commute (`memberUpdate_comm`).
-/
namespace ShipSlap.Json

/-- The step of `sortedMembers` that keeps the first member of each name. -/
def keepFirst (acc : List (String × Json)) (m : String × Json) : List (String × Json) :=
  if acc.any (·.1 == m.1) then acc else acc ++ [m]

/-- The order of `sortedMembers`: by name. -/
def nameLE (a b : String × Json) : Bool := decide (a.1 ≤ b.1)

theorem nameLE_iff {a b : String × Json} : nameLE a b = true ↔ a.1 ≤ b.1 := decide_eq_true_iff

theorem sortedMembers_eq (ms : List (String × Json)) :
    sortedMembers ms = (ms.reverse.foldl keepFirst []).mergeSort nameLE := rfl

@[simp] theorem sortedMembers_nil : sortedMembers [] = [] := by
  simp [sortedMembers_eq]

@[simp] theorem sortedMembers_singleton (m : String × Json) : sortedMembers [m] = [m] := by
  simp [sortedMembers_eq, keepFirst]

theorem mem_foldl_keepFirst {x : String × Json} :
    ∀ (l acc : List (String × Json)), x ∈ l.foldl keepFirst acc → x ∈ acc ∨ x ∈ l
  | [], _, h => .inl h
  | m :: l, acc, h => by
    rcases mem_foldl_keepFirst l _ h with h | h
    · unfold keepFirst at h
      split at h
      · exact .inl h
      · rcases List.mem_append.mp h with h | h
        · exact .inl h
        · exact .inr (by simp_all)
    · exact .inr (List.mem_cons_of_mem _ h)

theorem nodup_names_foldl_keepFirst :
    ∀ (l acc : List (String × Json)), (acc.map (·.1)).Nodup →
      ((l.foldl keepFirst acc).map (·.1)).Nodup
  | [], _, h => h
  | m :: l, acc, h => by
    refine nodup_names_foldl_keepFirst l _ ?_
    unfold keepFirst
    split
    · exact h
    · rename_i hnew
      simp only [List.any_eq_true, beq_iff_eq, not_exists, not_and] at hnew
      simp only [List.map_append, List.map_cons, List.map_nil, List.nodup_append, h,
        List.nodup_singleton, List.mem_map, List.mem_singleton, true_and]
      rintro _ ⟨y, hy, rfl⟩ _ rfl
      exact hnew y hy

/-- A member whose name no member before it has is kept, after the others. -/
theorem foldl_keepFirst_append_fresh {m : String × Json} {l acc : List (String × Json)}
    (hacc : ∀ x ∈ acc, x.1 ≠ m.1) (hl : ∀ x ∈ l, x.1 ≠ m.1) :
    (l ++ [m]).foldl keepFirst acc = l.foldl keepFirst acc ++ [m] := by
  rw [List.foldl_append, List.foldl_cons, List.foldl_nil, keepFirst, if_neg]
  simp only [List.any_eq_true, beq_iff_eq, not_exists, not_and]
  intro y hy
  rcases mem_foldl_keepFirst l acc hy with hy | hy
  · exact hacc y hy
  · exact hl y hy

theorem nameLE_trans (a b c : String × Json) :
    nameLE a b = true → nameLE b c = true → nameLE a c = true := by
  simp only [nameLE_iff]
  exact le_trans

theorem nameLE_total (a b : String × Json) : (nameLE a b || nameLE b a) = true := by
  simp only [Bool.or_eq_true, nameLE_iff]
  exact le_total _ _

theorem mem_sortedMembers {x : String × Json} {ms : List (String × Json)}
    (h : x ∈ sortedMembers ms) : x ∈ ms := by
  rw [sortedMembers_eq] at h
  rcases mem_foldl_keepFirst _ [] ((List.mergeSort_perm _ _).subset h) with h | h
  · cases h
  · exact List.mem_reverse.mp h

theorem nodup_names_sortedMembers (ms : List (String × Json)) :
    ((sortedMembers ms).map (·.1)).Nodup := by
  rw [sortedMembers_eq]
  exact ((List.mergeSort_perm _ _).map _).nodup_iff.mpr
    (nodup_names_foldl_keepFirst _ [] List.nodup_nil)

theorem pairwise_sortedMembers (ms : List (String × Json)) :
    (sortedMembers ms).Pairwise (fun a b => a.1 ≤ b.1) := by
  rw [sortedMembers_eq]
  exact (List.pairwise_mergeSort nameLE_trans nameLE_total _).imp
    fun h => Iff.mp nameLE_iff h

/-- **A member of a name no other member has goes in at its place by name.** -/
theorem sortedMembers_cons_fresh {m : String × Json} {ms : List (String × Json)}
    (hfresh : ∀ x ∈ ms, x.1 ≠ m.1) :
    sortedMembers (m :: ms) = (sortedMembers ms).orderedInsert (fun a b => a.1 ≤ b.1) m := by
  set D := ms.reverse.foldl keepFirst []
  have hD : (m :: ms).reverse.foldl keepFirst [] = D ++ [m] := by
    rw [List.reverse_cons]
    exact foldl_keepFirst_append_fresh (by simp) (fun x hx => hfresh x (List.mem_reverse.mp hx))
  have hnodup : ((m :: D).map (·.1)).Nodup := by
    refine List.nodup_cons.mpr ⟨?_, nodup_names_foldl_keepFirst _ [] List.nodup_nil⟩
    intro hmem
    obtain ⟨x, hx, hname⟩ := List.mem_map.mp hmem
    rcases mem_foldl_keepFirst _ [] hx with hx | hx
    · cases hx
    · exact hfresh x (List.mem_reverse.mp hx) hname
  -- both are arrangements of `m :: D` sorted by name, and no two members share a name
  have hleft : (sortedMembers (m :: ms)).Perm (m :: D) := by
    rw [sortedMembers_eq, hD]
    exact (List.mergeSort_perm _ _).trans (List.perm_append_singleton m D)
  have hright : ((sortedMembers ms).orderedInsert (fun a b => a.1 ≤ b.1) m).Perm (m :: D) :=
    (List.perm_orderedInsert _ m _).trans ((List.mergeSort_perm D _).cons m)
  refine List.Perm.eq_of_pairwise ?_ (pairwise_sortedMembers (m :: ms))
    ((pairwise_sortedMembers ms).orderedInsert _ _) (hleft.trans hright.symm)
  intro a b ha hb hab hba
  exact List.inj_on_of_nodup_map hnodup (hleft.subset ha) (hright.subset hb) (le_antisymm hab hba)

end ShipSlap.Json

namespace ShipSlap.Lookup

namespace RawQuery

theorem map_eq_ok {ε α β : Type} {x : Except ε α} {g : α → β} {b : β} :
    x.map g = .ok b ↔ ∃ a, x = .ok a ∧ g a = b := by
  cases x <;> simp [Except.map]

/-- What reading a member of field `f` with the value `j` does to a raw query that has not read
the field yet: it sets the field, or fails on a value of the wrong kind. What it does does not
depend on the raw query. -/
def memberUpdate (f : String) (j : Json) : Except DecodeError (RawQuery → RawQuery) :=
  match f with
  | "findAll" => (Json.asOption Json.asBool j).map fun v raw => { raw with findAll := v }
  | "domain" => (Json.asOption Json.asString j).map fun v raw => { raw with domain := v }
  | "topics" =>
    (Json.asOption (fun j => do (← Json.asArray j).mapM Json.asString) j).map
      fun v raw => { raw with topics := v }
  | "identityKey" =>
    (Json.asOption Json.asString j).map fun v raw => { raw with identityKey := v }
  | "limit" => (Except.ok (present j)).map fun v raw => { raw with limit := v }
  | "skip" => (Except.ok (present j)).map fun v raw => { raw with skip := v }
  | "sortOrder" => (Json.asOption Json.asString j).map fun v raw => { raw with sortOrder := v }
  | _ => .ok id

section MemberUpdate

variable (j : Json)

theorem memberUpdate_findAll : memberUpdate "findAll" j =
    (Json.asOption Json.asBool j).map fun v raw => { raw with findAll := v } := rfl

theorem memberUpdate_domain : memberUpdate "domain" j =
    (Json.asOption Json.asString j).map fun v raw => { raw with domain := v } := rfl

theorem memberUpdate_topics : memberUpdate "topics" j =
    (Json.asOption (fun j => do (← Json.asArray j).mapM Json.asString) j).map
      fun v raw => { raw with topics := v } := rfl

theorem memberUpdate_identityKey : memberUpdate "identityKey" j =
    (Json.asOption Json.asString j).map fun v raw => { raw with identityKey := v } := rfl

theorem memberUpdate_limit :
    memberUpdate "limit" j = .ok fun raw => { raw with limit := present j } := rfl

theorem memberUpdate_skip :
    memberUpdate "skip" j = .ok fun raw => { raw with skip := present j } := rfl

theorem memberUpdate_sortOrder : memberUpdate "sortOrder" j =
    (Json.asOption Json.asString j).map fun v raw => { raw with sortOrder := v } := rfl

end MemberUpdate

/-- The fields member names stand for. -/
theorem fieldOf_eq_some {n f : String} (h : fieldOf n = some f) :
    f = "findAll" ∨ f = "domain" ∨ f = "topics" ∨ f = "identityKey" ∨ f = "limit" ∨
      f = "skip" ∨ f = "sortOrder" := by
  unfold fieldOf at h
  split at h <;> simp_all

/-- A member name stands for its own field, or `services` for `topics`. -/
theorem name_of_fieldOf {n f : String} (h : fieldOf n = some f) :
    n = f ∨ (n = "services" ∧ f = "topics") := by
  unfold fieldOf at h
  split at h <;> simp_all

/-- **Reading one member**: a member of no field is passed over, a field read before is
refused, and otherwise the field is recorded and updated. -/
theorem read_eq (raw : RawQuery) (m : String × Json) :
    raw.read m = match fieldOf m.1 with
      | none => .ok raw
      | some f => if raw.seen.contains f then .error (.duplicateField f)
          else (memberUpdate f m.2).map (· { raw with seen := f :: raw.seen }) := by
  unfold read
  cases h : fieldOf m.1 with
  | none => rfl
  | some f =>
    dsimp only
    split_ifs
    · rfl
    · rcases fieldOf_eq_some h with rfl | rfl | rfl | rfl | rfl | rfl | rfl
      all_goals simp only [memberUpdate_findAll, memberUpdate_domain, memberUpdate_topics,
        memberUpdate_identityKey, memberUpdate_limit, memberUpdate_skip, memberUpdate_sortOrder]
      · cases Json.asOption Json.asBool m.2 <;> rfl
      · cases Json.asOption Json.asString m.2 <;> rfl
      · cases Json.asOption (fun j => do (← Json.asArray j).mapM Json.asString) m.2 <;> rfl
      · cases Json.asOption Json.asString m.2 <;> rfl
      · rfl
      · rfl
      · cases Json.asOption Json.asString m.2 <;> rfl

/-- The shapes of an update: one field set, or nothing. -/
theorem memberUpdate_eq_ok {f : String} {j : Json} {u : RawQuery → RawQuery}
    (h : memberUpdate f j = .ok u) :
    (f = "findAll" ∧ ∃ v, u = fun raw => { raw with findAll := v }) ∨
    (f = "domain" ∧ ∃ v, u = fun raw => { raw with domain := v }) ∨
    (f = "topics" ∧ ∃ v, u = fun raw => { raw with topics := v }) ∨
    (f = "identityKey" ∧ ∃ v, u = fun raw => { raw with identityKey := v }) ∨
    (f = "limit" ∧ ∃ v, u = fun raw => { raw with limit := v }) ∨
    (f = "skip" ∧ ∃ v, u = fun raw => { raw with skip := v }) ∨
    (f = "sortOrder" ∧ ∃ v, u = fun raw => { raw with sortOrder := v }) ∨ u = id := by
  unfold memberUpdate at h
  split at h <;> simp only [map_eq_ok, Except.ok.injEq] at h
  · obtain ⟨v, -, rfl⟩ := h
    exact .inl ⟨rfl, v, rfl⟩
  · obtain ⟨v, -, rfl⟩ := h
    exact .inr (.inl ⟨rfl, v, rfl⟩)
  · obtain ⟨v, -, rfl⟩ := h
    exact .inr (.inr (.inl ⟨rfl, v, rfl⟩))
  · obtain ⟨v, -, rfl⟩ := h
    exact .inr (.inr (.inr (.inl ⟨rfl, v, rfl⟩)))
  · obtain ⟨v, -, rfl⟩ := h
    exact .inr (.inr (.inr (.inr (.inl ⟨rfl, v, rfl⟩))))
  · obtain ⟨v, -, rfl⟩ := h
    exact .inr (.inr (.inr (.inr (.inr (.inl ⟨rfl, v, rfl⟩)))))
  · obtain ⟨v, -, rfl⟩ := h
    exact .inr (.inr (.inr (.inr (.inr (.inr (.inl ⟨rfl, v, rfl⟩))))))
  · exact .inr (.inr (.inr (.inr (.inr (.inr (.inr h.symm))))))

/-- An update leaves the recorded fields alone. -/
theorem memberUpdate_seen {f : String} {j : Json} {u : RawQuery → RawQuery}
    (h : memberUpdate f j = .ok u) (r : RawQuery) (s : List String) :
    u { r with seen := s } = { u r with seen := s } := by
  rcases memberUpdate_eq_ok h with ⟨-, v, rfl⟩ | ⟨-, v, rfl⟩ | ⟨-, v, rfl⟩ | ⟨-, v, rfl⟩ |
    ⟨-, v, rfl⟩ | ⟨-, v, rfl⟩ | ⟨-, v, rfl⟩ | rfl <;> rfl

/-- **Updates of different fields commute.** -/
theorem memberUpdate_comm {f f' : String} {j j' : Json} {u u' : RawQuery → RawQuery}
    (hne : f ≠ f') (hu : memberUpdate f j = .ok u) (hu' : memberUpdate f' j' = .ok u')
    (r : RawQuery) : u (u' r) = u' (u r) := by
  -- each update writes its own field, and two different fields never meet
  rcases memberUpdate_eq_ok hu with ⟨rfl, v, rfl⟩ | ⟨rfl, v, rfl⟩ | ⟨rfl, v, rfl⟩ | ⟨rfl, v, rfl⟩ |
    ⟨rfl, v, rfl⟩ | ⟨rfl, v, rfl⟩ | ⟨rfl, v, rfl⟩ | rfl <;>
  rcases memberUpdate_eq_ok hu' with ⟨rfl, v', rfl⟩ | ⟨rfl, v', rfl⟩ | ⟨rfl, v', rfl⟩ |
    ⟨rfl, v', rfl⟩ | ⟨rfl, v', rfl⟩ | ⟨rfl, v', rfl⟩ | ⟨rfl, v', rfl⟩ | rfl <;>
  simp_all

section Read

variable {r : RawQuery} {m : String × Json} {f : String}

theorem read_of_fieldOf_none (h : fieldOf m.1 = none) : r.read m = .ok r := by
  rw [read_eq, h]

theorem read_of_seen (hf : fieldOf m.1 = some f) (hs : f ∈ r.seen) :
    r.read m = .error (.duplicateField f) := by
  rw [read_eq, hf]
  simp [hs]

theorem read_of_update_error {e : DecodeError} (hf : fieldOf m.1 = some f) (hs : f ∉ r.seen)
    (hu : memberUpdate f m.2 = .error e) : r.read m = .error e := by
  rw [read_eq, hf]
  simp [hs, hu, Except.map]

theorem read_of_update {u : RawQuery → RawQuery} (hf : fieldOf m.1 = some f) (hs : f ∉ r.seen)
    (hu : memberUpdate f m.2 = .ok u) : r.read m = .ok { u r with seen := f :: r.seen } := by
  rw [read_eq, hf]
  simp only [hs, List.contains_eq_mem, decide_false, Bool.false_eq_true, if_false, hu]
  rw [← memberUpdate_seen hu]
  rfl

/-- A successful read of a member of field `f` found `f` unrecorded and the member's update, and
recorded `f`. -/
theorem read_eq_ok_of_fieldOf {r₁ : RawQuery} (hf : fieldOf m.1 = some f) (h : r.read m = .ok r₁) :
    f ∉ r.seen ∧ ∃ u, memberUpdate f m.2 = .ok u ∧ r₁ = { u r with seen := f :: r.seen } := by
  by_cases hs : f ∈ r.seen
  · rw [read_of_seen hf hs] at h
    cases h
  cases hu : memberUpdate f m.2 with
  | error e =>
    rw [read_of_update_error hf hs hu] at h
    cases h
  | ok u =>
    rw [read_of_update hf hs hu, Except.ok.injEq] at h
    exact ⟨hs, u, rfl, h.symm⟩

/-- Reading a member depends on its field and value only. -/
theorem read_congr {m' : String × Json} (hf : fieldOf m.1 = fieldOf m'.1) (hv : m.2 = m'.2) :
    r.read m = r.read m' := by
  rw [read_eq, read_eq, hf, hv]

/-- Reading records at most the member's field. -/
theorem mem_seen_read {r₁ : RawQuery} (h : r.read m = .ok r₁) {g : String} (hg : g ∈ r₁.seen) :
    g ∈ r.seen ∨ fieldOf m.1 = some g := by
  cases hf : fieldOf m.1 with
  | none =>
    rw [read_of_fieldOf_none hf, Except.ok.injEq] at h
    exact .inl (h ▸ hg)
  | some f =>
    obtain ⟨-, u, -, rfl⟩ := read_eq_ok_of_fieldOf hf h
    rcases List.mem_cons.mp hg with rfl | hg
    · exact .inr rfl
    · exact .inl hg

end Read

/-! ## Readings that agree -/

/-- Raw queries that agree but for the order in which their fields were recorded. -/
def Sim (r r' : RawQuery) : Prop :=
  { r with seen := [] } = { r' with seen := [] } ∧ r.seen.Perm r'.seen

theorem Sim.refl (r : RawQuery) : Sim r r := ⟨rfl, List.Perm.refl _⟩

theorem Sim.symm {r r' : RawQuery} (h : Sim r r') : Sim r' r := ⟨h.1.symm, h.2.symm⟩

theorem Sim.trans {r r' r'' : RawQuery} (h : Sim r r') (h' : Sim r' r'') : Sim r r'' :=
  ⟨h.1.trans h'.1, h.2.trans h'.2⟩

/-- The checks do not look at the recorded fields. -/
theorem check_eq_of_sim {r r' : RawQuery} (h : Sim r r') : r.check = r'.check := by
  have hr : ∀ x : RawQuery, x.check = { x with seen := [] }.check := fun _ => rfl
  rw [hr r, hr r', h.1]

/-- Two readings that fail with the same error, or read raw queries that agree. -/
def Agree : Except DecodeError RawQuery → Except DecodeError RawQuery → Prop
  | .error e, .error e' => e = e'
  | .ok r, .ok r' => Sim r r'
  | _, _ => False

theorem Agree.refl : ∀ x : Except DecodeError RawQuery, Agree x x
  | .error _ => rfl
  | .ok r => Sim.refl r

/-- Readings agree exactly when both fail with one error, or both read raw queries that
agree. -/
theorem agree_iff {x y : Except DecodeError RawQuery} :
    Agree x y ↔
      (∃ e, x = .error e ∧ y = .error e) ∨ ∃ r r', x = .ok r ∧ y = .ok r' ∧ Sim r r' := by
  cases x <;> cases y <;> simp [Agree, eq_comm]

theorem Agree.symm {x y : Except DecodeError RawQuery} (h : Agree x y) : Agree y x := by
  rcases Iff.mp agree_iff h with ⟨e, rfl, rfl⟩ | ⟨r, r', rfl, rfl, hs⟩
  · exact Agree.refl _
  · exact hs.symm

theorem Agree.trans {x y z : Except DecodeError RawQuery} (h : Agree x y) (h' : Agree y z) :
    Agree x z := by
  rcases Iff.mp agree_iff h with ⟨e, rfl, rfl⟩ | ⟨r, r', rfl, rfl, hs⟩
  · exact h'
  · rcases Iff.mp agree_iff h' with ⟨e, he, -⟩ | ⟨r₁, r₂, he, rfl, hs'⟩
    · cases he
    · cases he
      exact hs.trans hs'

/-- Continuing readings that agree with steps that take agreeing raw queries to agreeing
readings. -/
theorem Agree.bind {x y : Except DecodeError RawQuery}
    {g g' : RawQuery → Except DecodeError RawQuery} (h : Agree x y)
    (hg : ∀ r r', Sim r r' → Agree (g r) (g' r')) : Agree (x >>= g) (y >>= g') := by
  rcases Iff.mp agree_iff h with ⟨e, rfl, rfl⟩ | ⟨r, r', rfl, rfl, hs⟩
  · exact Agree.refl _
  · exact hg r r' hs

/-- Readings that agree check alike. -/
theorem Agree.check_eq {x y : Except DecodeError RawQuery} (h : Agree x y)
    (g : DecodeError → QueryError) :
    (x.mapError g >>= RawQuery.check) = (y.mapError g >>= RawQuery.check) := by
  rcases Iff.mp agree_iff h with ⟨e, rfl, rfl⟩ | ⟨r, r', rfl, rfl, hs⟩
  · rfl
  · exact check_eq_of_sim hs

theorem read_sim {r r' : RawQuery} (h : Sim r r') (m : String × Json) :
    Agree (r.read m) (r'.read m) := by
  cases hf : fieldOf m.1 with
  | none =>
    rw [read_of_fieldOf_none hf, read_of_fieldOf_none hf]
    exact h
  | some f =>
    have hmem : f ∈ r.seen ↔ f ∈ r'.seen := h.2.mem_iff
    by_cases hs : f ∈ r.seen
    · rw [read_of_seen hf hs, read_of_seen hf (hmem.mp hs)]
      rfl
    cases hu : memberUpdate f m.2 with
    | error e =>
      rw [read_of_update_error hf hs hu, read_of_update_error hf (hmem.not.mp hs) hu]
      rfl
    | ok u =>
      rw [read_of_update hf hs hu, read_of_update hf (hmem.not.mp hs) hu]
      refine ⟨?_, h.2.cons f⟩
      calc { u r with seen := [] } = u { r with seen := [] } := (memberUpdate_seen hu r []).symm
        _ = u { r' with seen := [] } := by rw [h.1]
        _ = { u r' with seen := [] } := memberUpdate_seen hu r' []

/-- Reading the same members into raw queries that agree gives readings that agree. -/
theorem foldlM_sim (L : List (String × Json)) :
    ∀ {r r' : RawQuery}, Sim r r' → Agree (L.foldlM read r) (L.foldlM read r') := by
  induction L with
  | nil => exact fun h => h
  | cons m L ih =>
    intro r r' h
    simp only [List.foldlM_cons]
    exact (read_sim h m).bind fun _ _ h' => ih h'

/-! ## Moving a member -/

/-- A member reads when its value is of the kind its field takes; members of no field always
read. -/
def Reads (m : String × Json) : Prop :=
  ∀ f, fieldOf m.1 = some f → ∃ u, memberUpdate f m.2 = .ok u

/-- A member of the field `f` reads exactly when the update of `f` with its value does. -/
theorem reads_iff_of_fieldOf {m : String × Json} {f : String} (hf : fieldOf m.1 = some f) :
    Reads m ↔ ∃ u, memberUpdate f m.2 = .ok u := by
  constructor
  · intro h
    exact h f hf
  · rintro hu g hg
    rw [hf, Option.some.injEq] at hg
    exact hg ▸ hu

theorem reads_of_fieldOf_none {m : String × Json} (h : fieldOf m.1 = none) : Reads m := by
  intro f hf
  rw [h] at hf
  cases hf

/-- A member whose field `r` has not recorded. -/
def Unread (r : RawQuery) (m : String × Json) : Prop :=
  ∀ f, fieldOf m.1 = some f → f ∉ r.seen

/-- Members of different fields. -/
def Apart (m m' : String × Json) : Prop :=
  ∀ f, fieldOf m.1 = some f → fieldOf m'.1 ≠ some f

theorem Apart.symm {m m' : String × Json} (h : Apart m m') : Apart m' m :=
  fun f hf' hf => h f hf hf'

theorem Apart.ne {m m' : String × Json} (h : Apart m m') {f f' : String}
    (hf : fieldOf m.1 = some f) (hf' : fieldOf m'.1 = some f') : f ≠ f' := by
  rintro rfl
  exact h f hf hf'

/-- Reading a member of another field leaves a member unread. -/
theorem Unread.of_read {r r₁ : RawQuery} {m x : String × Json} (hm : Unread r m) (hx : Apart x m)
    (h : r.read x = .ok r₁) : Unread r₁ m := by
  intro f hf hseen
  rcases mem_seen_read h hseen with hseen | hxf
  · exact hm f hf hseen
  · exact hx f hxf hf

/-- Reading members of other fields leaves a member unread. -/
theorem Unread.of_foldlM {m : String × Json} :
    ∀ (L : List (String × Json)) {r r₁ : RawQuery}, Unread r m → (∀ x ∈ L, Apart x m) →
      L.foldlM read r = .ok r₁ → Unread r₁ m
  | [], _, _, hm, _, h => by
    cases h
    exact hm
  | x :: L, r, r₁, hm, hL, h => by
    rw [List.foldlM_cons] at h
    cases hx : r.read x with
    | error e =>
      rw [hx] at h
      cases h
    | ok r' =>
      rw [hx] at h
      exact Unread.of_foldlM L (hm.of_read (hL x (List.mem_cons_self ..)) hx)
        (fun y hy => hL y (List.mem_cons_of_mem _ hy)) h

/-- Two updates of different fields, the fields recorded in either order, agree. -/
theorem sim_update_pair {f f' : String} {j j' : Json} {u u' : RawQuery → RawQuery} (hne : f ≠ f')
    (hu : memberUpdate f j = .ok u) (hu' : memberUpdate f' j' = .ok u') (r : RawQuery) :
    Sim { u' { u r with seen := f :: r.seen } with seen := f' :: f :: r.seen }
      { u { u' r with seen := f' :: r.seen } with seen := f :: f' :: r.seen } := by
  refine ⟨?_, List.Perm.swap f f' r.seen⟩
  -- the recorded fields aside, both are the two updates of `r`, which commute
  calc { u' { u r with seen := f :: r.seen } with seen := [] }
      = u' { u r with seen := [] } :=
        (memberUpdate_seen hu' { u r with seen := f :: r.seen } []).symm
    _ = u' (u { r with seen := [] }) := congrArg u' (memberUpdate_seen hu r []).symm
    _ = u (u' { r with seen := [] }) := (memberUpdate_comm hne hu hu' _).symm
    _ = u { u' r with seen := [] } := congrArg u (memberUpdate_seen hu' r [])
    _ = { u { u' r with seen := f' :: r.seen } with seen := [] } :=
        memberUpdate_seen hu { u' r with seen := f' :: r.seen } []

/-- Reading `m` first and then `m'`, or the other way round, when `m` reads and is unread. -/
theorem read_comm_of_reads {r : RawQuery} {m m' : String × Json} (hapart : Apart m m')
    (hm : Reads m) (hr : Unread r m) :
    Agree (r.read m >>= (·.read m')) (r.read m' >>= (·.read m)) := by
  cases hf : fieldOf m.1 with
  | none =>
    -- `m` is passed over, before `m'` or after it
    have hpass : ∀ x : RawQuery, x.read m = .ok x := fun _ => read_of_fieldOf_none hf
    rw [hpass]
    show Agree (r.read m') (r.read m' >>= (·.read m))
    cases r.read m' with
    | error e => rfl
    | ok r₂ =>
      show Agree (.ok r₂) (r₂.read m)
      rw [hpass]
      exact Sim.refl r₂
  | some f =>
    obtain ⟨u, hu⟩ := hm f hf
    have hfs : f ∉ r.seen := hr f hf
    have hread : r.read m = .ok { u r with seen := f :: r.seen } := read_of_update hf hfs hu
    rw [hread]
    show Agree (RawQuery.read { u r with seen := f :: r.seen } m') (r.read m' >>= (·.read m))
    cases hf' : fieldOf m'.1 with
    | none =>
      simp only [read_of_fieldOf_none hf']
      show Agree (.ok _) (r.read m)
      rw [hread]
      exact Sim.refl _
    | some f' =>
      have hne : f ≠ f' := hapart.ne hf hf'
      by_cases hs' : f' ∈ r.seen
      · -- `m'` repeats a field: refused in either order
        have h₁ : RawQuery.read { u r with seen := f :: r.seen } m' =
            .error (.duplicateField f') := read_of_seen hf' (List.mem_cons_of_mem _ hs')
        rw [h₁, read_of_seen hf' hs']
        rfl
      have hs₁ : f' ∉ f :: r.seen := by simp [hs', hne.symm]
      cases hu' : memberUpdate f' m'.2 with
      | error e =>
        -- `m'` does not read: the same error in either order
        have h₁ : RawQuery.read { u r with seen := f :: r.seen } m' = .error e :=
          read_of_update_error hf' hs₁ hu'
        rw [h₁, read_of_update_error hf' hs' hu']
        rfl
      | ok u' =>
        have h₁ : RawQuery.read { u r with seen := f :: r.seen } m' =
            .ok { u' { u r with seen := f :: r.seen } with seen := f' :: f :: r.seen } :=
          read_of_update hf' hs₁ hu'
        have h₂ : RawQuery.read { u' r with seen := f' :: r.seen } m =
            .ok { u { u' r with seen := f' :: r.seen } with seen := f :: f' :: r.seen } :=
          read_of_update hf (by simp [hfs, hne]) hu
        rw [h₁, read_of_update hf' hs' hu']
        show Agree _ (RawQuery.read { u' r with seen := f' :: r.seen } m)
        rw [h₂]
        exact sim_update_pair hne hu hu' r

/-- **Two members of different fields read alike in either order**, when one of them reads and
is unread. -/
theorem read_comm {r : RawQuery} {m m' : String × Json} (hapart : Apart m m')
    (hclean : (Reads m ∧ Unread r m) ∨ (Reads m' ∧ Unread r m')) :
    Agree (r.read m >>= (·.read m')) (r.read m' >>= (·.read m)) := by
  rcases hclean with ⟨hm, hr⟩ | ⟨hm', hr'⟩
  · exact read_comm_of_reads hapart hm hr
  · exact (read_comm_of_reads hapart.symm hm' hr').symm

theorem foldlM_cons_cons (m x : String × Json) (B : List (String × Json)) (r : RawQuery) :
    (m :: x :: B).foldlM read r = (r.read m >>= (·.read x)) >>= (B.foldlM read ·) := by
  simp only [List.foldlM_cons, bind_assoc]

/-- **Moving a member past members of other fields**: reading `m` before the members `B` or
after them agrees, when `m` reads and is unread, or when every member of `B` does and no two
members of `B` are of one field. -/
theorem foldlM_move {m : String × Json} (B : List (String × Json)) :
    ∀ (r : RawQuery), (∀ x ∈ B, Apart m x) →
      (Reads m ∧ Unread r m) ∨ ((∀ x ∈ B, Reads x ∧ Unread r x) ∧ B.Pairwise Apart) →
      Agree ((m :: B).foldlM read r) ((B ++ [m]).foldlM read r) := by
  induction B with
  | nil => exact fun r _ _ => Agree.refl _
  | cons x B ih =>
    intro r hapart hclean
    have hmx : Apart m x := hapart x (List.mem_cons_self ..)
    -- first swap `m` with `x`, then move it past the rest from what `x` leaves
    have hswap : Agree ((m :: x :: B).foldlM read r) ((x :: m :: B).foldlM read r) := by
      rw [foldlM_cons_cons, foldlM_cons_cons]
      refine (read_comm hmx ?_).bind fun _ _ h => foldlM_sim B h
      rcases hclean with hm | ⟨hB, -⟩
      · exact .inl hm
      · exact .inr (hB x (List.mem_cons_self ..))
    refine hswap.trans ?_
    rw [List.cons_append, List.foldlM_cons, List.foldlM_cons]
    cases hx : r.read x with
    | error e => rfl
    | ok r₁ =>
      refine ih r₁ (fun y hy => hapart y (List.mem_cons_of_mem _ hy)) ?_
      rcases hclean with ⟨hm, hr⟩ | ⟨hB, hpair⟩
      · exact .inl ⟨hm, hr.of_read hmx.symm hx⟩
      · -- the rest reads from `r₁` as from `r`: `x` recorded a field none of them has
        refine .inr ⟨fun y hy => ?_, (List.pairwise_cons.mp hpair).2⟩
        obtain ⟨hy₁, hy₂⟩ := hB y (List.mem_cons_of_mem _ hy)
        exact ⟨hy₁, hy₂.of_read ((List.pairwise_cons.mp hpair).1 y hy) hx⟩

/-- **A member goes anywhere among members of other fields**: read between `pre` and `post`,
it agrees with being read after both, when it reads and is unread, or when every member of
`post` does and no two members of `pre ++ post` are of one field. -/
theorem foldlM_insert {m : String × Json} (pre post : List (String × Json)) {r : RawQuery}
    (hapart : ∀ x ∈ pre ++ post, Apart m x)
    (hclean : (Reads m ∧ Unread r m) ∨
      ((∀ x ∈ post, Reads x ∧ Unread r x) ∧ (pre ++ post).Pairwise Apart)) :
    Agree ((pre ++ m :: post).foldlM read r) ((pre ++ post ++ [m]).foldlM read r) := by
  rw [List.append_assoc, List.foldlM_append, List.foldlM_append]
  cases hpre : pre.foldlM read r with
  | error e => rfl
  | ok r₁ =>
    refine foldlM_move post r₁ (fun x hx => hapart x (List.mem_append_right _ hx)) ?_
    -- what `pre` recorded is none of the fields that matter after it
    rcases hclean with ⟨hm, hr⟩ | ⟨hpost, hpair⟩
    · exact .inl ⟨hm, Unread.of_foldlM pre hr
        (fun x hx => (hapart x (List.mem_append_left _ hx)).symm) hpre⟩
    · obtain ⟨-, hpost_pair, hcross⟩ := List.pairwise_append.mp hpair
      exact .inr ⟨fun y hy => ⟨(hpost y hy).1,
        Unread.of_foldlM pre (hpost y hy).2 (fun x hx => hcross x hx y hy) hpre⟩, hpost_pair⟩

/-- Past the place of `a` in a list sorted by name, every name is at least `a`. -/
theorem le_of_mem_dropWhile {a : String} :
    ∀ {S : List (String × Json)}, S.Pairwise (fun x y => x.1 ≤ y.1) →
      ∀ b ∈ S.dropWhile (fun x => decide ¬ a ≤ x.1), a ≤ b.1
  | [], _, _, hb => by cases hb
  | x :: S, hS, b, hb => by
    by_cases hx : a ≤ x.1
    · rw [List.dropWhile_cons_of_neg (by simp only [decide_eq_true_eq, not_not]; exact hx)] at hb
      rcases List.mem_cons.mp hb with rfl | hb
      · exact hx
      · exact le_trans hx ((List.pairwise_cons.mp hS).1 b hb)
    · rw [List.dropWhile_cons_of_pos (by simp only [decide_eq_true_eq]; exact hx)] at hb
      exact le_of_mem_dropWhile (List.pairwise_cons.mp hS).2 b hb

/-- Members of different names are of different fields: no `topics` beside `services`. -/
def NamesApart (ms : List (String × Json)) : Prop :=
  ∀ x ∈ ms, ∀ y ∈ ms, x.1 ≠ y.1 → Apart x y

theorem pairwise_apart_sortedMembers {ms : List (String × Json)} (h : NamesApart ms) :
    (Json.sortedMembers ms).Pairwise Apart :=
  (List.pairwise_map.mp (Json.nodup_names_sortedMembers ms)).imp_of_mem fun hx hy hne =>
    h _ (Json.mem_sortedMembers hx) _ (Json.mem_sortedMembers hy) hne

/-- **A member of a fresh name is as good as read last**: reading the sorted members of
`m :: ms` agrees with reading those of `ms` and then `m`, when `m` reads and is unread, or when
every member of `ms` that sorts after it does and members of different names are of different
fields. -/
theorem foldlM_sortedMembers_cons {m : String × Json} {ms : List (String × Json)} {r : RawQuery}
    (hfresh : ∀ x ∈ ms, x.1 ≠ m.1) (hapart : ∀ x ∈ ms, Apart m x)
    (hclean : (Reads m ∧ Unread r m) ∨
      ((∀ x ∈ ms, m.1 ≤ x.1 → Reads x ∧ Unread r x) ∧ NamesApart ms)) :
    Agree ((Json.sortedMembers (m :: ms)).foldlM read r)
      ((Json.sortedMembers ms ++ [m]).foldlM read r) := by
  rw [Json.sortedMembers_cons_fresh hfresh, List.orderedInsert_eq_take_drop]
  set S := Json.sortedMembers ms
  have hsplit : S.takeWhile (fun x => decide ¬ m.1 ≤ x.1) ++
      S.dropWhile (fun x => decide ¬ m.1 ≤ x.1) = S := List.takeWhile_append_dropWhile
  have h : Agree ((S.takeWhile (fun x => decide ¬ m.1 ≤ x.1) ++
      m :: S.dropWhile (fun x => decide ¬ m.1 ≤ x.1)).foldlM read r)
      ((S.takeWhile (fun x => decide ¬ m.1 ≤ x.1) ++
        S.dropWhile (fun x => decide ¬ m.1 ≤ x.1) ++ [m]).foldlM read r) :=
    foldlM_insert _ _ ?_ ?_
  · rwa [hsplit] at h
  · rw [hsplit]
    exact fun x hx => hapart x (Json.mem_sortedMembers hx)
  · rcases hclean with hm | ⟨hpost, hnames⟩
    · exact .inl hm
    · -- the members `m` is moved past are those sorting after it
      refine .inr ⟨fun y hy =>
        hpost y (Json.mem_sortedMembers ((List.dropWhile_suffix _).subset hy))
          (le_of_mem_dropWhile (Json.pairwise_sortedMembers ms) y hy), ?_⟩
      rw [hsplit]
      exact pairwise_apart_sortedMembers hnames

/-- **Fresh members that read are as good as read last**, in reverse: reading the sorted members
of `F ++ ms` agrees with reading those of `ms` and then `F` from its last member back. -/
theorem foldlM_sortedMembers_append {ms : List (String × Json)} {r : RawQuery} :
    ∀ {F : List (String × Json)},
      (∀ m ∈ F, Reads m ∧ Unread r m ∧ ∀ x ∈ ms, x.1 ≠ m.1 ∧ Apart m x) →
      F.Pairwise (fun a b => b.1 ≠ a.1 ∧ Apart a b) →
      Agree ((Json.sortedMembers (F ++ ms)).foldlM read r)
        ((Json.sortedMembers ms ++ F.reverse).foldlM read r)
  | [], _, _ => by simpa using Agree.refl _
  | m :: F, hF, hpair => by
    obtain ⟨hm, hr, hms⟩ := hF m (List.mem_cons_self ..)
    obtain ⟨hmF, hpairF⟩ := List.pairwise_cons.mp hpair
    -- `m` has a name and a field of its own among `F ++ ms`
    have hother : ∀ x ∈ F ++ ms, x.1 ≠ m.1 ∧ Apart m x := by
      intro x hx
      rcases List.mem_append.mp hx with hx | hx
      · exact hmF x hx
      · exact hms x hx
    have hlast := foldlM_sortedMembers_cons (fun x hx => (hother x hx).1)
      (fun x hx => (hother x hx).2) (.inl ⟨hm, hr⟩)
    have hrest := foldlM_sortedMembers_append
      (fun x hx => hF x (List.mem_cons_of_mem _ hx)) hpairF
    refine hlast.trans ?_
    rw [List.foldlM_append, List.reverse_cons, ← List.append_assoc, List.foldlM_append]
    exact hrest.bind fun _ _ h => by simpa using read_sim h m

/-- A member that reads and is unread reads. -/
theorem read_eq_ok_of_reads {r : RawQuery} {m : String × Json} (hm : Reads m) (hr : Unread r m) :
    ∃ r₁, r.read m = .ok r₁ := by
  cases hf : fieldOf m.1 with
  | none => exact ⟨r, read_of_fieldOf_none hf⟩
  | some f =>
    obtain ⟨u, hu⟩ := hm f hf
    exact ⟨_, read_of_update hf (hr f hf) hu⟩

/-- A member that was read reads. -/
theorem reads_of_read_eq_ok {r r₁ : RawQuery} {m : String × Json} (h : r.read m = .ok r₁) :
    Reads m := by
  intro f hf
  obtain ⟨-, u, hu, -⟩ := read_eq_ok_of_fieldOf hf h
  exact ⟨u, hu⟩

/-- Every member of a successful reading reads. -/
theorem reads_of_foldlM_eq_ok :
    ∀ {L : List (String × Json)} {r r₁ : RawQuery}, L.foldlM read r = .ok r₁ → ∀ x ∈ L, Reads x
  | [], _, _, _, x, hx => by cases hx
  | m :: L, r, r₁, h, x, hx => by
    rw [List.foldlM_cons] at h
    cases hm : r.read m with
    | error e =>
      rw [hm] at h
      cases h
    | ok r' =>
      rw [hm] at h
      rcases List.mem_cons.mp hx with rfl | hx
      · exact reads_of_read_eq_ok hm
      · exact reads_of_foldlM_eq_ok h x hx

/-- Reading the same member under a name of the same field reads alike. -/
theorem reads_congr {m m' : String × Json} (hf : fieldOf m.1 = fieldOf m'.1) (hv : m.2 = m'.2) :
    Reads m ↔ Reads m' := by
  simp only [Reads, hf, hv]

end RawQuery

end ShipSlap.Lookup
