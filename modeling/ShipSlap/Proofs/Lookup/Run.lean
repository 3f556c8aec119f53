import Mathlib
import ShipSlap.Lookup.Service
import ShipSlap.Proofs.Store.Run
/-!
Runs of a lookup service over the memory store. A run is any list of events: outputs admitted
under a topic, outputs spent or evicted, lookup questions, and the clock set or moved on. For a
service of protocol `p` over the memory store:

1. `receive_outcome`: the answer to an admission is `admissionOutcome p e`, a function of the
   event and the protocol alone. Neither the store, nor the clock, nor the history enter it.
2. `receive_of_ne_admitted`: an admission that is ignored or rejected changes nothing, and a
   lookup only reads.
3. `record?_run`: after a run from an empty store, the store holds a record at `o` exactly when
   some admission at `o` was admitted and no spend, eviction or later admitted admission at `o`
   followed; the record is the entry of that admission stamped with the clock as it stood then.
   Spends and evictions match by outpoint alone, whatever topic they name.

`lookup_run_law` gathers the three. The entry of an admission is described field by field by
`admissionEntry_eq_ok`.
-/
namespace ShipSlap.Lookup

open ShipSlap.Store

/-- What reaches a lookup service. A spend names a topic, which the service does not read. -/
inductive LookupEvent where
  | admission (e : AdmissionEvent)
  | spend (o : Outpoint) (topic : String)
  | evict (o : Outpoint)
  | lookup (q : LookupQuestion)
  | setTime (ms : UInt64)
  | advance (ms : UInt64)

namespace LookupService

/-- The service after one event. A spend or an eviction that the store fails leaves the service
as it was, and a lookup only reads. -/
def step (svc : LookupService) : LookupEvent → LookupService
  | .admission e => (svc.receive e).1
  | .spend o _ | .evict o =>
    match svc.forget o with
    | .ok svc' => svc'
    | .error _ => svc
  | .lookup _ => svc
  | .setTime ms => { svc with clock := ⟨ms⟩ }
  | .advance ms => { svc with clock := svc.clock.advance ms }

@[simp] theorem step_admission (svc : LookupService) (e : AdmissionEvent) :
    svc.step (.admission e) = (svc.receive e).1 := rfl

/-- An eviction does what a spend of any topic does. -/
theorem step_evict_eq_step_spend (svc : LookupService) (o : Outpoint) (topic : String) :
    svc.step (.evict o) = svc.step (.spend o topic) := rfl

/-- The service after a list of events. -/
def run (svc : LookupService) (evs : List LookupEvent) : LookupService :=
  evs.foldl step svc

/-- The record the service's store holds at an outpoint; an unreachable store shows none. -/
def record? (svc : LookupService) (o : Outpoint) : Option AdvertisementRecord :=
  match svc.backend with
  | .memory s => s.get? o
  | .unreachable _ => none

@[simp] theorem record?_mk_memory (p : Protocol) (s : MemoryStore) (clock : ManualClock)
    (config : LookupConfig) (o : Outpoint) :
    (⟨p, .memory s, clock, config⟩ : LookupService).record? o = s.get? o := rfl

/-- The answer to an admission from a service of protocol `p` whose store takes every write. -/
def admissionOutcome (p : Protocol) (e : AdmissionEvent) : AdmissionOutcome :=
  if e.topic ≠ p.topic then .ignored
  else match admissionEntry p e with
    | .ok _ => .admitted
    | .error r => .rejected r

end LookupService

/-- Whether an event settles what the store of a service of protocol `p` holds at `o`: a spend
or an eviction of `o`, or an admission at `o` that is admitted. -/
def LookupEvent.touches (p : Protocol) (o : Outpoint) : LookupEvent → Bool
  | .admission e => e.outpoint == o && LookupService.admissionOutcome p e == .admitted
  | .spend o' _ => o' == o
  | .evict o' => o' == o
  | _ => false

namespace LookupEvent

variable {p : Protocol} {o : Outpoint}

@[simp] theorem touches_admission (e : AdmissionEvent) :
    (admission e).touches p o =
      (e.outpoint == o && LookupService.admissionOutcome p e == .admitted) := rfl

@[simp] theorem touches_spend (o' : Outpoint) (topic : String) :
    (spend o' topic).touches p o = (o' == o) := rfl

@[simp] theorem touches_evict (o' : Outpoint) : (evict o').touches p o = (o' == o) := rfl

@[simp] theorem touches_lookup (q : LookupQuestion) : (lookup q).touches p o = false := rfl

@[simp] theorem touches_setTime (ms : UInt64) : (setTime ms).touches p o = false := rfl

@[simp] theorem touches_advance (ms : UInt64) : (advance ms).touches p o = false := rfl

end LookupEvent

namespace LookupService

/-! ## Admission -/

/-- The checks of admission pass exactly when the token decodes, its fields read, its protocol
is `p`, its full name is valid, it carries a fifth field, and the signature links it; the entry
is then the output, the identity as hexadecimal, the domain and the full name. -/
theorem admissionEntry_eq_ok {p : Protocol} {e : AdmissionEvent} {entry : RecordEntry} :
    admissionEntry p e = .ok entry ↔
      ∃ token fields, PushDrop.decodeToken e.lockingScript = .ok token ∧
        AdvertisementFields.ofFields token.fields = .ok fields ∧ fields.protocol = p ∧
        Name.validate fields.fullName = .ok () ∧ 5 ≤ token.fields.length ∧
        verifyLinkage ProtoWallet.anyone token.lockingKey.toHex token.fields = .ok true ∧
        entry = ⟨e.outpoint, fields.identityKey, fields.domain, fields.fullName⟩ := by
  unfold admissionEntry
  cases h1 : PushDrop.decodeToken e.lockingScript with
  | error err => simp [Except.mapError, bind, Except.bind]
  | ok token =>
    cases h2 : AdvertisementFields.ofFields token.fields with
    | error err => simp [Except.mapError, bind, Except.bind, h2]
    | ok fields =>
      by_cases hp : fields.protocol = p
      · cases h3 : Name.validate fields.fullName with
        | error err => simp [Except.mapError, bind, Except.bind, h2, hp, h3]
        | ok u =>
          by_cases hlen : token.fields.length < 5
          · simp [Except.mapError, bind, Except.bind, h2, hp, h3, PushDrop.requireFields, hlen]
          · have hlen' : 5 ≤ token.fields.length := by omega
            cases h4 : verifyLinkage ProtoWallet.anyone token.lockingKey.toHex token.fields with
            | error err =>
              simp [Except.mapError, bind, Except.bind, h2, hp, h3, PushDrop.requireFields, hlen,
                h4]
            | ok linked =>
              cases linked <;>
                simp [Except.mapError, bind, Except.bind, h2, hp, h3, PushDrop.requireFields, hlen,
                  hlen', h4, pure, Except.pure, throw, throwThe, MonadExceptOf.throw, eq_comm]
      · simp [Except.mapError, bind, Except.bind, h2, hp, throw, throwThe, MonadExceptOf.throw]

theorem outpoint_of_admissionEntry {p : Protocol} {e : AdmissionEvent} {entry : RecordEntry}
    (h : admissionEntry p e = .ok entry) : entry.outpoint = e.outpoint := by
  obtain ⟨_, _, -, -, -, -, -, -, rfl⟩ := Iff.mp admissionEntry_eq_ok h
  rfl

theorem admissionOutcome_eq_admitted {p : Protocol} {e : AdmissionEvent} :
    admissionOutcome p e = .admitted ↔
      e.topic = p.topic ∧ ∃ entry, admissionEntry p e = .ok entry := by
  unfold admissionOutcome
  split
  · simp_all
  · rename_i htopic
    cases admissionEntry p e <;> simp_all

variable {svc : LookupService} {s : MemoryStore}

/-- Over the memory store the checks decide admission: the store takes every entry. -/
theorem checkAdmission_memory (hmem : svc.backend = .memory s) (e : AdmissionEvent) :
    svc.checkAdmission e = match admissionEntry svc.protocol e with
      | .ok entry => .ok (.memory (s.store entry svc.clock.now.toNat))
      | .error r => .error r := by
  unfold checkAdmission
  rw [hmem]
  cases admissionEntry svc.protocol e <;> rfl

/-- **The outcome of an admission depends on the event and the protocol alone.** -/
theorem receive_outcome (hmem : svc.backend = .memory s) (e : AdmissionEvent) :
    (svc.receive e).2 = admissionOutcome svc.protocol e := by
  unfold receive admissionOutcome
  split
  · rfl
  · rw [checkAdmission_memory hmem]
    cases admissionEntry svc.protocol e <;> rfl

/-- An admission that is ignored or rejected leaves the service as it was, whatever its store. -/
theorem receive_of_ne_admitted (e : AdmissionEvent) (h : (svc.receive e).2 ≠ .admitted) :
    (svc.receive e).1 = svc := by
  unfold receive at h ⊢
  split
  · rfl
  · rename_i htopic
    rw [if_neg htopic] at h
    cases hc : svc.checkAdmission e with
    | ok b => simp [hc] at h
    | error r => rfl

/-- An admitted admission over the memory store stores its entry, stamped with the clock. -/
theorem receive_admitted (hmem : svc.backend = .memory s) {e : AdmissionEvent}
    {entry : RecordEntry} (htopic : e.topic = svc.protocol.topic)
    (hentry : admissionEntry svc.protocol e = .ok entry) :
    (svc.receive e).1 = { svc with backend := .memory (s.store entry svc.clock.now.toNat) } := by
  simp [receive, htopic, checkAdmission_memory hmem, hentry]

/-! ## One event -/

theorem record?_of_memory (hmem : svc.backend = .memory s) (o : Outpoint) :
    svc.record? o = s.get? o := by
  obtain ⟨p, b, clock, config⟩ := svc
  subst hmem
  rfl

theorem forget_memory (hmem : svc.backend = .memory s) (o : Outpoint) :
    svc.forget o = .ok { svc with backend := .memory (s.delete o) } := by
  simp [forget, hmem, StoreBackend.delete, Except.mapError, bind, Except.bind, pure, Except.pure]

theorem step_spend (hmem : svc.backend = .memory s) (o : Outpoint) (topic : String) :
    svc.step (.spend o topic) = { svc with backend := .memory (s.delete o) } := by
  simp [step, forget_memory hmem]

theorem step_evict (hmem : svc.backend = .memory s) (o : Outpoint) :
    svc.step (.evict o) = { svc with backend := .memory (s.delete o) } := by
  rw [step_evict_eq_step_spend svc o "", step_spend hmem]

theorem step_admission_of_ne_admitted (hmem : svc.backend = .memory s) {e : AdmissionEvent}
    (h : admissionOutcome svc.protocol e ≠ .admitted) : svc.step (.admission e) = svc :=
  receive_of_ne_admitted e (by rwa [receive_outcome hmem])

/-- One event keeps the protocol and the memory store. -/
theorem step_memory (hmem : svc.backend = .memory s) (ev : LookupEvent) :
    (svc.step ev).protocol = svc.protocol ∧ ∃ s', (svc.step ev).backend = .memory s' := by
  cases ev with
  | admission e =>
    by_cases hadm : admissionOutcome svc.protocol e = .admitted
    · obtain ⟨htopic, entry, hentry⟩ := Iff.mp admissionOutcome_eq_admitted hadm
      rw [step_admission, receive_admitted hmem htopic hentry]
      exact ⟨rfl, _, rfl⟩
    · rw [step_admission_of_ne_admitted hmem hadm]
      exact ⟨rfl, s, hmem⟩
  | spend o t =>
    rw [step_spend hmem]
    exact ⟨rfl, _, rfl⟩
  | evict o =>
    rw [step_evict hmem]
    exact ⟨rfl, _, rfl⟩
  | lookup q => exact ⟨rfl, s, hmem⟩
  | setTime ms => exact ⟨rfl, s, hmem⟩
  | advance ms => exact ⟨rfl, s, hmem⟩

/-- An event that does not settle `o` leaves the record at `o` as it was. -/
theorem record?_step_of_touches_false (hmem : svc.backend = .memory s) {ev : LookupEvent}
    {o : Outpoint} (h : ev.touches svc.protocol o = false) :
    (svc.step ev).record? o = svc.record? o := by
  cases ev with
  | admission e =>
    by_cases hadm : admissionOutcome svc.protocol e = .admitted
    · obtain ⟨htopic, entry, hentry⟩ := Iff.mp admissionOutcome_eq_admitted hadm
      have hne : e.outpoint ≠ o := by simpa [hadm] using h
      rw [step_admission, receive_admitted hmem htopic hentry]
      simp [record?_of_memory hmem, outpoint_of_admissionEntry hentry, hne]
    · rw [step_admission_of_ne_admitted hmem hadm]
  | spend o' t =>
    have hne : o' ≠ o := by simpa using h
    simp [step_spend hmem, record?_of_memory hmem, hne]
  | evict o' =>
    have hne : o' ≠ o := by simpa using h
    simp [step_evict hmem, record?_of_memory hmem, hne]
  | lookup q => rfl
  | setTime ms => rfl
  | advance ms => rfl

theorem record?_step_admission (hmem : svc.backend = .memory s) {e : AdmissionEvent}
    {entry : RecordEntry} (htopic : e.topic = svc.protocol.topic)
    (hentry : admissionEntry svc.protocol e = .ok entry) :
    (svc.step (.admission e)).record? e.outpoint =
      some (.ofEntry entry svc.clock.now.toNat) := by
  rw [step_admission, receive_admitted hmem htopic hentry]
  simp [outpoint_of_admissionEntry hentry]

/-! ## Whole runs -/

@[simp] theorem run_nil (svc : LookupService) : svc.run [] = svc := rfl

theorem run_append_singleton (svc : LookupService) (evs : List LookupEvent) (ev : LookupEvent) :
    svc.run (evs ++ [ev]) = (svc.run evs).step ev := by
  simp [run, List.foldl_append]

/-- A run keeps the protocol and the memory store. -/
theorem run_memory (hmem : svc.backend = .memory s) (evs : List LookupEvent) :
    (svc.run evs).protocol = svc.protocol ∧ ∃ s', (svc.run evs).backend = .memory s' := by
  induction evs using List.reverseRecOn with
  | nil => exact ⟨rfl, s, hmem⟩
  | append_singleton evs ev ih =>
    obtain ⟨hp, s', hmem'⟩ := ih
    obtain ⟨hp', hmem''⟩ := step_memory hmem' ev
    rw [run_append_singleton]
    exact ⟨hp'.trans hp, hmem''⟩

/-- The record the law of the service gives at `o` after the events `evs` from `svc`: the entry
of an admitted admission at `o`, stamped with the clock as the run stood then, followed by no
spend, eviction or admitted admission at `o`. -/
def LastAdmitted (svc : LookupService) (evs : List LookupEvent) (o : Outpoint)
    (r : AdvertisementRecord) : Prop :=
  ∃ pre e post entry, evs = pre ++ .admission e :: post ∧ e.outpoint = o ∧
    admissionOutcome svc.protocol e = .admitted ∧ admissionEntry svc.protocol e = .ok entry ∧
    r = .ofEntry entry (svc.run pre).clock.now.toNat ∧
    ∀ ev ∈ post, ev.touches svc.protocol o = false

/-- Where a list with one more element at its end splits around one of its elements: at that
last element, or before it. -/
theorem eq_append_cons_of_append_singleton {α : Type} {xs pre post : List α} {x y : α}
    (h : xs ++ [x] = pre ++ y :: post) :
    (pre = xs ∧ y = x ∧ post = []) ∨ ∃ post', post = post' ++ [x] ∧ xs = pre ++ y :: post' := by
  rcases List.eq_nil_or_concat post with rfl | ⟨post', z, rfl⟩
  · left
    obtain ⟨hpre, hy⟩ := List.append_inj' h rfl
    exact ⟨hpre.symm, (List.singleton_inj.mp hy).symm, rfl⟩
  · right
    rw [List.concat_eq_append, ← List.cons_append, ← List.append_assoc] at h
    obtain ⟨hxs, hz⟩ := List.append_inj' h rfl
    rw [List.singleton_inj] at hz
    subst hz
    exact ⟨post', List.concat_eq_append .., hxs⟩

variable {evs : List LookupEvent} {o : Outpoint} {r : AdvertisementRecord}

theorem not_lastAdmitted_nil : ¬ LastAdmitted svc [] o r := by
  rintro ⟨pre, e, post, entry, h, -⟩
  simp at h

/-- An event that does not settle `o` changes nothing the law says of `o`. -/
theorem lastAdmitted_append_of_touches_false {ev : LookupEvent}
    (h : ev.touches svc.protocol o = false) :
    LastAdmitted svc (evs ++ [ev]) o r ↔ LastAdmitted svc evs o r := by
  constructor
  · rintro ⟨pre, e, post, entry, hsplit, he, hadm, hentry, hr, hpost⟩
    rcases eq_append_cons_of_append_singleton hsplit with ⟨rfl, rfl, rfl⟩ | ⟨post', rfl, hevs⟩
    · simp [he, hadm] at h
    · exact ⟨pre, e, post', entry, hevs, he, hadm, hentry, hr,
        fun x hx => hpost x (List.mem_append_left _ hx)⟩
  · rintro ⟨pre, e, post, entry, rfl, he, hadm, hentry, hr, hpost⟩
    refine ⟨pre, e, post ++ [ev], entry, by simp, he, hadm, hentry, hr, ?_⟩
    intro x hx
    rcases List.mem_append.mp hx with hx | hx
    · exact hpost x hx
    · rw [List.mem_singleton] at hx
      subst hx
      exact h

/-- An admitted admission at `o` is the last word on `o`. -/
theorem lastAdmitted_append_admission {e : AdmissionEvent} (he : e.outpoint = o)
    (hadm : admissionOutcome svc.protocol e = .admitted) :
    LastAdmitted svc (evs ++ [.admission e]) o r ↔
      ∃ entry, admissionEntry svc.protocol e = .ok entry ∧
        r = .ofEntry entry (svc.run evs).clock.now.toNat := by
  constructor
  · rintro ⟨pre, e', post, entry, hsplit, -, -, hentry, hr, hpost⟩
    rcases eq_append_cons_of_append_singleton hsplit with ⟨rfl, hee, rfl⟩ | ⟨post', rfl, -⟩
    · cases hee
      exact ⟨entry, hentry, hr⟩
    · have hlast := hpost (.admission e) (by simp)
      simp [he, hadm] at hlast
  · rintro ⟨entry, hentry, hr⟩
    exact ⟨evs, e, [], entry, by simp, he, hadm, hentry, hr, by simp⟩

/-- After a spend or an eviction of `o` the law gives no record at `o`. -/
theorem not_lastAdmitted_append_forget {ev : LookupEvent}
    (hev : (∃ topic, ev = .spend o topic) ∨ ev = .evict o) :
    ¬ LastAdmitted svc (evs ++ [ev]) o r := by
  rintro ⟨pre, e, post, entry, hsplit, -, -, -, -, hpost⟩
  rcases eq_append_cons_of_append_singleton hsplit with ⟨-, hee, -⟩ | ⟨post', rfl, -⟩
  · rcases hev with ⟨topic, rfl⟩ | rfl <;> cases hee
  · have hlast := hpost ev (by simp)
    rcases hev with ⟨topic, rfl⟩ | rfl <;> simp at hlast

/-- **What the store holds after a run.** From a service over an empty memory store, after any
events the store holds at `o` exactly the record the law gives. -/
theorem record?_run (hmem : svc.backend = .memory s) (hempty : ∀ o, s.get? o = none)
    (evs : List LookupEvent) (o : Outpoint) (r : AdvertisementRecord) :
    (svc.run evs).record? o = some r ↔ LastAdmitted svc evs o r := by
  induction evs using List.reverseRecOn with
  | nil => simp [record?_of_memory hmem, hempty, not_lastAdmitted_nil]
  | append_singleton evs ev ih =>
    obtain ⟨hp, s', hmem'⟩ := run_memory hmem evs
    rw [run_append_singleton]
    -- the run so far serves the same protocol, so `touches` reads the same
    cases ht : ev.touches svc.protocol o with
    | false =>
      rw [record?_step_of_touches_false hmem' (hp ▸ ht), lastAdmitted_append_of_touches_false ht]
      exact ih
    | true =>
      cases ev with
      | admission e =>
        simp only [LookupEvent.touches_admission, Bool.and_eq_true, beq_iff_eq] at ht
        obtain ⟨he, hadm⟩ := ht
        obtain ⟨htopic, entry, hentry⟩ := Iff.mp admissionOutcome_eq_admitted hadm
        rw [lastAdmitted_append_admission he hadm, ← he,
          record?_step_admission hmem' (hp ▸ htopic) (hp ▸ hentry)]
        constructor
        · rintro ⟨⟩
          exact ⟨entry, hentry, rfl⟩
        · rintro ⟨entry', hentry', rfl⟩
          rw [hentry] at hentry'
          cases hentry'
          rfl
      | spend o' topic =>
        simp only [LookupEvent.touches_spend, beq_iff_eq] at ht
        subst ht
        simp [step_spend hmem', not_lastAdmitted_append_forget (Or.inl ⟨topic, rfl⟩)]
      | evict o' =>
        simp only [LookupEvent.touches_evict, beq_iff_eq] at ht
        subst ht
        simp [step_evict hmem', not_lastAdmitted_append_forget (Or.inr rfl)]
      | lookup q => simp at ht
      | setTime ms => simp at ht
      | advance ms => simp at ht

end LookupService

open LookupService in
/-- **The law of a lookup service over whole runs.** For a service of protocol `p` that starts
over an empty memory store, after any history: an admission gets `admissionOutcome p e`, what
came before notwithstanding; an admission that is not admitted, and a lookup, change nothing;
and the store holds at `o` exactly the record of the last admitted admission at `o`, stamped
with the clock of that moment, unless a spend or an eviction of `o` came after it. -/
theorem lookup_run_law (p : Protocol) (start : UInt64) (config : LookupConfig)
    (evs : List LookupEvent) :
    let svc₀ : LookupService := ⟨p, .memory {}, ⟨start⟩, config⟩
    (∀ pre e, ((svc₀.run pre).receive e).2 = admissionOutcome p e) ∧
    (∀ pre e, ((svc₀.run pre).receive e).2 ≠ .admitted →
      ((svc₀.run pre).receive e).1 = svc₀.run pre) ∧
    (∀ pre q, (svc₀.run pre).step (.lookup q) = svc₀.run pre) ∧
    ∀ o r, (svc₀.run evs).record? o = some r ↔ LastAdmitted svc₀ evs o r := by
  intro svc₀
  have hmem : svc₀.backend = .memory {} := rfl
  refine ⟨fun pre e => ?_, fun pre e h => receive_of_ne_admitted e h, fun _ _ => rfl,
    record?_run hmem (fun _ => rfl) evs⟩
  obtain ⟨hp, s', hmem'⟩ := run_memory hmem pre
  rw [receive_outcome hmem', hp]

end ShipSlap.Lookup
