import ShipSlap.Advertiser.Concurrent
/-!
The lifecycle of an advertiser whose calls run at once: a one-way switch from uninitialized to
initialized, held by a cell that is set at most once.

Every state that a fresh advertiser reaches, whatever calls are made and however their steps
interleave (`Running.Reachable`), satisfies `Lifecycle`:

1. until some `init` has returned `Ok`, no operation passes its guard, and every operation that
   returns is refused with `NotInitialized` naming itself, making no wallet, resolver or codec
   call at all;
2. at most one `init` returns `Ok`, and an `init` that starts after it is refused with
   `AlreadyInitialized` at once;
3. the advertiser is initialized exactly when some `init` has returned `Ok`, so an `init` that
   fails leaves it as it was;
4. once set, the identity never changes, and it is the wallet's answer to the `init` that
   returned `Ok`.

The proof follows the steps. `step_cases` says once what one step can do (`Transition`), `Inv`
is what every reachable state satisfies, and `Inv.step` shows that each transition keeps it.

Run on its own, a call's steps do what the call does in one piece (`run_alone`).
-/
namespace ShipSlap.Advertiser

namespace WalletAdvertiser

theorem isInitialized_eq (a : WalletAdvertiser) : a.isInitialized = a.identity.isSome := rfl

theorem identityFor_eq_ok {a : WalletAdvertiser} {op : Operation} {k : PublicKey} :
    a.identityFor op = .ok k ↔ a.identity = some k := by
  unfold identityFor
  split <;> simp_all

theorem identityFor_eq_error {a : WalletAdvertiser} {op : Operation} {e : AdvertiserError} :
    a.identityFor op = .error e ↔ a.identity = none ∧ e = .notInitialized op := by
  unfold identityFor
  split <;> simp_all [eq_comm]

theorem init_of_isInitialized {a : WalletAdvertiser} (h : a.isInitialized = true) :
    a.init = .error .alreadyInitialized := by
  simp [init, h]

theorem init_eq_ok {a a' : WalletAdvertiser} (h : a.init = .ok a') :
    a.isInitialized = false ∧ a' = { a with identity := some a.wallet.keys.identityKey } := by
  unfold init at h
  split at h
  · cases h
  · split at h
    · cases h
    · exact ⟨by simp_all, (Except.ok.inj h).symm⟩

theorem exists_identity {a : WalletAdvertiser} (h : a.isInitialized = true) :
    ∃ k, a.identity = some k :=
  Option.isSome_iff_exists.mp h

theorem create_identity {a a' : WalletAdvertiser} {ads : List AdvertisementData}
    {b : TaggedBundle} (h : a.create ads = .ok (b, a')) : a'.identity = a.identity := by
  unfold create at h
  simp only [bind, Except.bind, pure, Except.pure] at h
  -- every failure is `.error`; the one success rebuilds the advertiser with a new wallet
  repeat' split at h
  all_goals cases h
  all_goals rfl

theorem findAll_identity (a : WalletAdvertiser) (p : Protocol) :
    (a.findAll p).2.identity = a.identity := by
  unfold findAll
  dsimp only
  split
  · rfl
  · split <;> rfl

theorem revoke_identity (a : WalletAdvertiser) (ads : List Advertisement) :
    (a.revoke ads).2.identity = a.identity := by
  unfold revoke
  dsimp only
  split <;> rfl

end WalletAdvertiser

@[simp] theorem Call.operation?_init : Call.init.operation? = none := rfl

theorem Call.operation?_eq_none {c : Call} : c.operation? = none ↔ c = .init := by
  cases c <;> simp [Call.operation?]

/-! What a call run on its own does, by the answer of the operation it wraps. -/

theorem Call.perform_init_of_error {a : WalletAdvertiser} {e : AdvertiserError}
    (h : a.init = .error e) : Call.init.perform a = (.error e, a) := by
  delta Call.perform
  dsimp only
  rw [h]

theorem Call.perform_init_of_ok {a a' : WalletAdvertiser} (h : a.init = .ok a') :
    Call.init.perform a = (.ok .initialized, a') := by
  delta Call.perform
  dsimp only
  rw [h]

theorem Call.perform_create_of_error {a : WalletAdvertiser} {ads : List AdvertisementData}
    {e : AdvertiserError} (h : a.create ads = .error e) :
    (Call.create ads).perform a = (.error e, a) := by
  delta Call.perform
  dsimp only
  rw [h]

theorem Call.perform_create_of_ok {a a' : WalletAdvertiser} {ads : List AdvertisementData}
    {b : TaggedBundle} (h : a.create ads = .ok (b, a')) :
    (Call.create ads).perform a = (.ok (.bundle b), a') := by
  delta Call.perform
  dsimp only
  rw [h]

theorem Call.perform_parse (script : Bytes) (a : WalletAdvertiser) :
    (Call.parse script).perform a = ((a.parse script).map .advertisement, a) := rfl

theorem Call.perform_findAll (p : Protocol) (a : WalletAdvertiser) :
    (Call.findAll p).perform a = ((a.findAll p).1.map .advertisements, (a.findAll p).2) := rfl

theorem Call.perform_revoke (ads : List Advertisement) (a : WalletAdvertiser) :
    (Call.revoke ads).perform a = ((a.revoke ads).1.map .bundle, (a.revoke ads).2) := rfl

/-- Once set, the identity survives every call. -/
theorem Call.perform_identity (c : Call) {a : WalletAdvertiser} {k : PublicKey}
    (h : a.identity = some k) : (c.perform a).2.identity = some k := by
  have hinit : a.isInitialized = true := by simp [WalletAdvertiser.isInitialized_eq, h]
  cases c with
  | init =>
    rw [Call.perform_init_of_error (WalletAdvertiser.init_of_isInitialized hinit)]
    exact h
  | create ads =>
    cases hc : a.create ads with
    | ok r =>
      rw [Call.perform_create_of_ok hc]
      exact (WalletAdvertiser.create_identity hc).trans h
    | error e =>
      rw [Call.perform_create_of_error hc]
      exact h
  | parse script => exact h
  | findAll p => rw [Call.perform_findAll, WalletAdvertiser.findAll_identity, h]
  | revoke ads => rw [Call.perform_revoke, WalletAdvertiser.revoke_identity, h]

theorem map_ne_ok_initialized {α : Type} {f : α → Answer} (hf : ∀ x, f x ≠ .initialized)
    (r : Except AdvertiserError α) : r.map f ≠ .ok .initialized := by
  cases r with
  | error e => nofun
  | ok x => exact fun h => hf x (Except.ok.inj h)

/-- On an initialized advertiser no call returns `Ok` as `init` does. -/
theorem Call.perform_ne_initialized (c : Call) {a : WalletAdvertiser}
    (h : a.isInitialized = true) : (c.perform a).1 ≠ .ok .initialized := by
  cases c with
  | init =>
    rw [Call.perform_init_of_error (WalletAdvertiser.init_of_isInitialized h)]
    nofun
  | create ads =>
    cases hc : a.create ads with
    | ok r =>
      rw [Call.perform_create_of_ok hc]
      nofun
    | error e =>
      rw [Call.perform_create_of_error hc]
      nofun
  | parse script | findAll p | revoke ads =>
    refine map_ne_ok_initialized (fun _ => ?_) _
    nofun

/-- On an uninitialized advertiser an operation is refused, naming itself, and changes
nothing. -/
theorem Call.perform_of_identity_none {c : Call} {op : Operation} (hop : c.operation? = some op)
    {a : WalletAdvertiser} (h : a.identity = none) :
    c.perform a = (.error (.notInitialized op), a) := by
  cases c with
  | init => simp at hop
  | create ads | parse script | findAll p | revoke ads =>
    obtain rfl := Option.some.inj hop
    simp [Call.perform, WalletAdvertiser.create, WalletAdvertiser.parse,
      WalletAdvertiser.findAll, WalletAdvertiser.revoke, WalletAdvertiser.identityFor, h, bind,
      Except.bind, Except.map]

namespace Running

theorem advance_eq (s : Running) (i : Nat) (t : Task) (evs : List Event) :
    s.advance i t evs = ⟨s.advertiser, s.tasks.set i t, s.trace ++ evs⟩ := rfl

theorem finish_eq (s : Running) (i : Nat) (c : Call) (r : Except AdvertiserError Answer)
    (a : WalletAdvertiser) :
    s.finish i c r a = ⟨a, s.tasks.set i ⟨c, .returned r⟩, s.trace ++ [.returned i r]⟩ := rfl

/-- What one step of call `i`, a call of `c`, can do from the advertiser `a`: the stage it
leaves, the stage it reaches, the events the trace records and the advertiser it leaves. -/
inductive Transition (i : Nat) (a : WalletAdvertiser) (c : Call) :
    Stage → Stage → List Event → WalletAdvertiser → Prop
  | initRefused {e : AdvertiserError} : c = .init → a.init = .error e →
      Transition i a c .made (.returned (.error e)) [.started i, .returned i (.error e)] a
  | initAsks {a' : WalletAdvertiser} : c = .init → a.init = .ok a' →
      Transition i a c .made .awaitingIdentity [.started i, .askedIdentity i] a
  | refused {op : Operation} {e : AdvertiserError} : c.operation? = some op →
      a.identityFor op = .error e →
      Transition i a c .made (.returned (.error e)) [.started i, .returned i (.error e)] a
  | passes {op : Operation} {k : PublicKey} : c.operation? = some op →
      a.identityFor op = .ok k → Transition i a c .made .guarded [.started i, .guarded i] a
  | works : Transition i a c .guarded (.returned (c.perform a).1) [.returned i (c.perform a).1]
      (c.perform a).2
  | walletFailed (e : WalletError) : Transition i a c .awaitingIdentity
      (.returned (.error (.wallet e)))
      [.identityAnswered i (.error e), .returned i (.error (.wallet e))] a
  | setLost (k : PublicKey) : a.isInitialized = true → Transition i a c .awaitingIdentity
      (.returned (.error .alreadyInitialized))
      [.identityAnswered i (.ok k), .returned i (.error .alreadyInitialized)] a
  | set (k : PublicKey) : a.isInitialized = false → Transition i a c .awaitingIdentity
      (.returned (.ok .initialized))
      [.identityAnswered i (.ok k), .returned i (.ok .initialized)] { a with identity := some k }

theorem begin_transition (s : Running) (i : Nat) (c : Call) :
    ∃ st' evs a', Transition i s.advertiser c .made st' evs a' ∧
      s.begin i c = ⟨a', s.tasks.set i ⟨c, st'⟩, s.trace ++ evs⟩ := by
  unfold begin
  cases hop : c.operation? with
  | none =>
    have hc := Iff.mp Call.operation?_eq_none hop
    cases hinit : s.advertiser.init with
    | error e => exact ⟨_, _, _, .initRefused hc hinit, by simp [finish_eq, hinit]⟩
    | ok a' => exact ⟨_, _, _, .initAsks hc hinit, by simp [advance_eq, hinit]⟩
  | some op =>
    cases hid : s.advertiser.identityFor op with
    | error e => exact ⟨_, _, _, .refused hop hid, by simp [finish_eq, hid]⟩
    | ok k => exact ⟨_, _, _, .passes hop hid, by simp [advance_eq, hid]⟩

theorem receiveIdentity_transition (s : Running) (i : Nat) (c : Call)
    (answer : Except WalletError PublicKey) :
    ∃ st' evs a', Transition i s.advertiser c .awaitingIdentity st' evs a' ∧
      s.receiveIdentity i c answer = ⟨a', s.tasks.set i ⟨c, st'⟩, s.trace ++ evs⟩ := by
  unfold receiveIdentity
  cases answer with
  | error e => exact ⟨_, _, _, .walletFailed e, by simp [finish_eq]⟩
  | ok k =>
    cases hinit : s.advertiser.isInitialized with
    | true => exact ⟨_, _, _, .setLost k hinit, by simp [finish_eq, hinit]⟩
    | false => exact ⟨_, _, _, .set k hinit, by simp [finish_eq, hinit]⟩

/-- Everything one step can do: make a call, or move one call by one of its transitions. -/
theorem step_cases {s s' : Running} {m : Move} (h : s.step m = some s') :
    (∃ c, s' = { s with tasks := s.tasks ++ [⟨c, .made⟩] }) ∨
    ∃ i c st st' evs a', s.tasks[i]? = some ⟨c, st⟩ ∧
      Transition i s.advertiser c st st' evs a' ∧
      s' = ⟨a', s.tasks.set i ⟨c, st'⟩, s.trace ++ evs⟩ := by
  cases m with
  | call c => exact .inl ⟨c, (Option.some.inj h).symm⟩
  | run i =>
    simp only [step] at h
    split at h
    · rename_i c hget
      obtain ⟨st', evs, a', htr, hs'⟩ := begin_transition s i c
      exact .inr ⟨i, c, _, st', evs, a', hget, htr, (Option.some.inj h).symm.trans hs'⟩
    · rename_i c hget
      exact .inr ⟨i, c, _, _, _, _, hget, .works, (Option.some.inj h).symm⟩
    · cases h
  | answer i identity =>
    simp only [step] at h
    split at h
    · rename_i c hget
      obtain ⟨st', evs, a', htr, hs'⟩ := receiveIdentity_transition s i c identity
      exact .inr ⟨i, c, _, st', evs, a', hget, htr, (Option.some.inj h).symm.trans hs'⟩
    · cases h

/-! ## Traces -/

/-- Some `init` has returned `Ok` in `trace`. -/
def Initialized (trace : List Event) : Prop := ∃ j, Event.returned j (.ok .initialized) ∈ trace

theorem initialized_def {trace : List Event} :
    Initialized trace ↔ ∃ j, Event.returned j (.ok .initialized) ∈ trace := Iff.rfl

/-- `trace` shows a call receiving the identity `k` from the wallet and then returning `Ok`. -/
def SetFromAnswer (trace : List Event) (k : PublicKey) : Prop :=
  ∃ pre j post,
    trace = pre ++ .identityAnswered j (.ok k) :: .returned j (.ok .initialized) :: post

/-- The call made as task `i`. -/
def callOf (tasks : List Task) (i : Nat) : Option Call := (tasks[i]?).map Task.call

theorem callOf_eq (tasks : List Task) (i : Nat) : callOf tasks i = (tasks[i]?).map Task.call :=
  rfl

/-- What may happen while no `init` has returned `Ok`: an operation never passes its guard, and
one that returns is refused with `NotInitialized` naming its own operation. -/
def BeforeInit (tasks : List Task) : Event → Prop
  | .guarded _ => False
  | .returned i r => ∀ c, callOf tasks i = some c → ∀ op, c.operation? = some op →
      r = .error (.notInitialized op)
  | _ => True

section BeforeInit

variable {tasks : List Task} {i : Nat}

@[simp] theorem beforeInit_guarded : ¬ BeforeInit tasks (.guarded i) := id

@[simp] theorem beforeInit_returned {r : Except AdvertiserError Answer} :
    BeforeInit tasks (.returned i r) ↔ ∀ c, callOf tasks i = some c → ∀ op,
      c.operation? = some op → r = .error (.notInitialized op) := Iff.rfl

@[simp] theorem beforeInit_started : BeforeInit tasks (.started i) := trivial

@[simp] theorem beforeInit_askedIdentity : BeforeInit tasks (.askedIdentity i) := trivial

@[simp] theorem beforeInit_identityAnswered {answer : Except WalletError PublicKey} :
    BeforeInit tasks (.identityAnswered i answer) := trivial

end BeforeInit

theorem initialized_append {l evs : List Event} :
    Initialized (l ++ evs) ↔ Initialized l ∨ Initialized evs := by
  simp only [initialized_def, List.mem_append]
  exact exists_or

theorem SetFromAnswer.append {l : List Event} {k : PublicKey} (h : SetFromAnswer l k)
    (evs : List Event) : SetFromAnswer (l ++ evs) k := by
  obtain ⟨pre, j, post, rfl⟩ := h
  exact ⟨pre, j, post ++ evs, by simp⟩

/-- A point of `l ++ evs` lies in `l` or in `evs`. -/
theorem eq_append_cons_of_append {l evs pre post : List Event} {e : Event}
    (h : l ++ evs = pre ++ e :: post) :
    (∃ post', l = pre ++ e :: post' ∧ post = post' ++ evs) ∨
      ∃ evs₁, evs = evs₁ ++ e :: post ∧ pre = l ++ evs₁ := by
  rcases List.append_eq_append_iff.mp h with ⟨a', hpre, hevs⟩ | ⟨c', hl, hpost⟩
  · exact .inr ⟨a', hevs, hpre⟩
  · cases c' with
    | nil => exact .inr ⟨[], by simpa using hpost.symm, by simpa using hl.symm⟩
    | cons x c' =>
      obtain ⟨rfl, rfl⟩ := List.cons.inj hpost
      exact .inl ⟨c', hl, rfl⟩

theorem callOf_set {tasks : List Task} {i : Nat} {c : Call} {st : Stage}
    (h : tasks[i]? = some ⟨c, st⟩) (st' : Stage) :
    callOf (tasks.set i ⟨c, st'⟩) = callOf tasks := by
  funext j
  by_cases hj : i = j
  · subst hj
    obtain ⟨hlt, heq⟩ := List.getElem?_eq_some_iff.mp h
    simp [callOf_eq, hlt, heq]
  · simp [callOf_eq, hj]

theorem callOf_append_of_lt {tasks : List Task} {j : Nat} (t : Task) (hj : j < tasks.length) :
    callOf (tasks ++ [t]) j = callOf tasks j := by
  simp [callOf_eq, List.getElem?_append_left hj]

theorem beforeInit_congr {tasks tasks' : List Task} {e : Event}
    (h : callOf tasks' e.task = callOf tasks e.task) :
    BeforeInit tasks' e ↔ BeforeInit tasks e := by
  cases e with
  | returned i r =>
    have h : callOf tasks' i = callOf tasks i := h
    simp only [beforeInit_returned, h]
  | _ => exact Iff.rfl

theorem getElem?_of_append_made {tasks : List Task} {c c' : Call} {i : Nat} {st : Stage}
    (h : (tasks ++ [⟨c, .made⟩])[i]? = some ⟨c', st⟩) (hst : st ≠ .made) :
    tasks[i]? = some ⟨c', st⟩ := by
  rw [List.getElem?_append] at h
  split at h
  · exact h
  · -- past the old calls there is only the new one, not yet run
    rw [List.getElem?_singleton] at h
    split at h
    · exact absurd (Task.mk.inj (Option.some.inj h)).2.symm hst
    · cases h

theorem getElem?_set_eq_some {tasks : List Task} {i j : Nat} {t t' : Task}
    (h : (tasks.set i t)[j]? = some t') :
    (i = j ∧ t' = t) ∨ (i ≠ j ∧ tasks[j]? = some t') := by
  by_cases hj : i = j
  · subst hj
    rw [List.getElem?_set_self'] at h
    obtain ⟨_, h⟩ := Option.map_eq_some_iff.mp h
    exact .inl ⟨rfl, h.2.symm⟩
  · exact .inr ⟨hj, by rwa [List.getElem?_set_ne hj] at h⟩

/-! ## What one transition records -/

namespace Transition

variable {i : Nat} {a a' : WalletAdvertiser} {c : Call} {st st' : Stage} {evs : List Event}

/-- A call that returned takes no more steps. -/
theorem ne_returned (h : Transition i a c st st' evs a') (r : Except AdvertiserError Answer) :
    st ≠ .returned r := by
  cases h <;> nofun

theorem task_eq (h : Transition i a c st st' evs a') : ∀ e ∈ evs, e.task = i := by
  cases h <;> simp [Event.task]

/-- A call's return is the last event of its step, and its stage from then on. -/
theorem eq_returned (h : Transition i a c st st' evs a') {evs₁ post : List Event} {j : Nat}
    {r : Except AdvertiserError Answer} (he : evs = evs₁ ++ .returned j r :: post) :
    j = i ∧ st' = .returned r ∧ post = [] := by
  cases h <;> rcases evs₁ with _ | ⟨x, _ | ⟨y, evs₁⟩⟩ <;> simp_all

/-- The only `Ok` of `init` comes from setting the identity on an uninitialized advertiser. -/
theorem eq_initialized (h : Transition i a c st st' evs a')
    (hg : st = .guarded → a.isInitialized = true) {j : Nat}
    (hj : Event.returned j (.ok .initialized) ∈ evs) :
    j = i ∧ a.isInitialized = false ∧ ∃ k, a' = { a with identity := some k } := by
  cases h with
  | works =>
    have hr : j = i ∧ .ok .initialized = (c.perform a).1 := by simpa using hj
    exact absurd hr.2.symm (Call.perform_ne_initialized c (hg rfl))
  | set k ha => exact ⟨by simp_all, ha, k, rfl⟩
  | _ => simp at hj

/-- A call starts with the first event of its first step. -/
theorem started_first (h : Transition i a c st st' evs a') {evs₁ post : List Event} {j : Nat}
    (he : evs = evs₁ ++ .started j :: post) : evs₁ = [] ∧ j = i := by
  cases h <;> rcases evs₁ with _ | ⟨x, _ | ⟨y, evs₁⟩⟩ <;> simp_all

/-- An `init` that starts on an initialized advertiser is refused at once. -/
theorem eq_started (h : Transition i a c st st' evs a') (ha : a.isInitialized = true)
    (hc : c = .init) {evs₁ post : List Event} {j : Nat}
    (he : evs = evs₁ ++ .started j :: post) :
    post = [.returned i (.error .alreadyInitialized)] := by
  subst hc
  have hinit := WalletAdvertiser.init_of_isInitialized ha
  cases h with
  | initRefused _ he' =>
    rw [hinit] at he'
    cases he'
    rcases evs₁ with _ | ⟨x, _ | ⟨y, evs₁⟩⟩ <;> simp at he
    exact he.2.symm
  | initAsks _ he' =>
    rw [hinit] at he'
    cases he'
  | refused hop | passes hop => simp at hop
  | _ => rcases evs₁ with _ | ⟨x, _ | ⟨y, evs₁⟩⟩ <;> simp_all

/-- While no `init` has returned `Ok`, a step records only what `BeforeInit` allows. -/
theorem beforeInit (h : Transition i a c st st' evs a') {tasks : List Task}
    (hcall : callOf tasks i = some c) (hc : st = .awaitingIdentity → c = .init)
    (hg : st = .guarded → a.isInitialized = true) (ha : a.isInitialized = false) :
    ∀ e ∈ evs, BeforeInit tasks e := by
  -- an `init` may return anything; an operation only its refusal
  cases h with
  | initRefused hc' _ =>
    subst hc'
    simp [hcall]
  | walletFailed _ | set _ _ =>
    obtain rfl := hc rfl
    simp [hcall]
  | initAsks _ _ => simp
  | refused hop hid =>
    obtain ⟨-, rfl⟩ := Iff.mp WalletAdvertiser.identityFor_eq_error hid
    simp_all
  | passes _ hid =>
    have := Iff.mp WalletAdvertiser.identityFor_eq_ok hid
    simp [WalletAdvertiser.isInitialized_eq, this] at ha
  | works => simp [hg rfl] at ha
  | setLost _ ha' => simp [ha'] at ha

/-- What a call's new stage says of its step. -/
theorem stage_cases (h : Transition i a c st st' evs a') :
    (st' = .guarded → a.isInitialized = true) ∧ (st' = .awaitingIdentity → c = .init) := by
  cases h with
  | passes _ hid =>
    have := Iff.mp WalletAdvertiser.identityFor_eq_ok hid
    simp [WalletAdvertiser.isInitialized_eq, this]
  | initAsks hc _ => simp [hc]
  | _ => simp

/-- A step keeps the identity, or sets it on an uninitialized advertiser and records the
wallet's answer and the `Ok` that follows. -/
theorem identity_cases (h : Transition i a c st st' evs a')
    (hg : st = .guarded → a.isInitialized = true) :
    a'.identity = a.identity ∨ a.isInitialized = false ∧ ∃ k, a'.identity = some k ∧
      evs = [.identityAnswered i (.ok k), .returned i (.ok .initialized)] := by
  cases h with
  | works =>
    obtain ⟨k, hk⟩ := WalletAdvertiser.exists_identity (hg rfl)
    exact .inl ((Call.perform_identity c hk).trans hk.symm)
  | set k ha => exact .inr ⟨ha, k, rfl, rfl⟩
  | _ => exact .inl rfl

end Transition

/-! ## The invariant -/

/-- What every state a fresh advertiser reaches satisfies. -/
structure Inv (s : Running) : Prop where
  /-- every event belongs to a call made -/
  task_lt : ∀ e ∈ s.trace, e.task < s.tasks.length
  /-- the identity is set exactly when some `init` has returned `Ok` -/
  initialized_iff : s.advertiser.isInitialized = true ↔ Initialized s.trace
  /-- a set identity is the answer the `init` that returned `Ok` received -/
  identity_answered : ∀ k, s.advertiser.identity = some k → SetFromAnswer s.trace k
  /-- an operation is past its guard only on an initialized advertiser -/
  guarded_initialized : ∀ (i : Nat) (c : Call), s.tasks[i]? = some ⟨c, .guarded⟩ →
    Initialized s.trace
  /-- only `init` awaits the identity -/
  awaiting_init : ∀ (i : Nat) (c : Call), s.tasks[i]? = some ⟨c, .awaitingIdentity⟩ →
    c = .init
  /-- a call that returned stays so, and records nothing more -/
  returned_last : ∀ pre i r post, s.trace = pre ++ .returned i r :: post →
    (∃ c, s.tasks[i]? = some ⟨c, .returned r⟩) ∧ ∀ e ∈ post, e.task ≠ i
  /-- what happens before any `init` has returned `Ok` -/
  before_init : ∀ pre e post, s.trace = pre ++ e :: post → ¬ Initialized pre →
    BeforeInit s.tasks e
  /-- an `init` that starts once one has returned `Ok` is refused at once -/
  late_init : ∀ pre i post, s.trace = pre ++ .started i :: post → Initialized pre →
    callOf s.tasks i = some .init → post.head? = some (.returned i (.error .alreadyInitialized))
  /-- at most one `init` returns `Ok` -/
  ok_unique : ∀ i j, Event.returned i (.ok .initialized) ∈ s.trace →
    Event.returned j (.ok .initialized) ∈ s.trace → i = j

theorem inv_start {a : WalletAdvertiser} (h : a.identity = none) : Inv (start a) where
  task_lt := by simp [start]
  initialized_iff := by simp [start, initialized_def, WalletAdvertiser.isInitialized_eq, h]
  identity_answered := by simp [start, h]
  guarded_initialized := by simp [start]
  awaiting_init := by simp [start]
  returned_last := by simp [start]
  before_init := by simp [start]
  late_init := by simp [start]
  ok_unique := by simp [start]

/-! ## Each step keeps the invariant -/

theorem Inv.call {s : Running} (hi : Inv s) (c : Call) :
    Inv { s with tasks := s.tasks ++ [⟨c, .made⟩] } where
  task_lt e he := by
    simp only [List.length_append, List.length_singleton]
    exact Nat.lt_succ_of_lt (hi.task_lt e he)
  initialized_iff := hi.initialized_iff
  identity_answered := hi.identity_answered
  guarded_initialized i c' h := hi.guarded_initialized i c' (getElem?_of_append_made h nofun)
  awaiting_init i c' h := hi.awaiting_init i c' (getElem?_of_append_made h nofun)
  returned_last pre i r post h := by
    obtain ⟨⟨c', hc'⟩, hpost⟩ := hi.returned_last pre i r post h
    have hlt := (List.getElem?_eq_some_iff.mp hc').1
    exact ⟨⟨c', by rw [List.getElem?_append_left hlt]; exact hc'⟩, hpost⟩
  before_init pre e post h hpre := by
    have h : s.trace = pre ++ e :: post := h
    have hlt := hi.task_lt e (by simp [h])
    rw [beforeInit_congr (callOf_append_of_lt _ hlt)]
    exact hi.before_init pre e post h hpre
  late_init pre i post h hpre hcall := by
    have h : s.trace = pre ++ .started i :: post := h
    have hlt : i < s.tasks.length := hi.task_lt (.started i) (by simp [h])
    rw [callOf_append_of_lt _ hlt] at hcall
    exact hi.late_init pre i post h hpre hcall
  ok_unique := hi.ok_unique

section Transition

variable {s : Running} {i : Nat} {c : Call} {st st' : Stage} {evs : List Event}
  {a' : WalletAdvertiser}

theorem Inv.guarded_isInitialized (hi : Inv s) (hget : s.tasks[i]? = some ⟨c, st⟩) :
    st = .guarded → s.advertiser.isInitialized = true := by
  rintro rfl
  exact hi.initialized_iff.mpr (hi.guarded_initialized i c hget)

theorem Inv.awaiting_isInit (hi : Inv s) (hget : s.tasks[i]? = some ⟨c, st⟩) :
    st = .awaitingIdentity → c = .init := by
  rintro rfl
  exact hi.awaiting_init i c hget

theorem Inv.isInitialized_eq_false (hi : Inv s) {evs₁ : List Event}
    (hpre : ¬ Initialized (s.trace ++ evs₁)) : s.advertiser.isInitialized = false := by
  cases hinit : s.advertiser.isInitialized
  · rfl
  · exact absurd (Iff.mpr initialized_append (.inl (hi.initialized_iff.mp hinit))) hpre

theorem Inv.initialized_iff_transition (hi : Inv s) (hget : s.tasks[i]? = some ⟨c, st⟩)
    (htr : Transition i s.advertiser c st st' evs a') :
    a'.isInitialized = true ↔ Initialized (s.trace ++ evs) := by
  have hg := hi.guarded_isInitialized hget
  rw [initialized_append]
  rcases htr.identity_cases hg with hid | ⟨ha, k, hk, rfl⟩
  · -- the identity is kept, so the step records no `Ok` of `init`
    have hno : ¬ Initialized evs := by
      rintro ⟨j, hj⟩
      obtain ⟨-, ha, k, rfl⟩ := htr.eq_initialized hg hj
      simp [WalletAdvertiser.isInitialized_eq, ← hid] at ha
    simp only [WalletAdvertiser.isInitialized_eq, hid, hno, or_false]
    exact hi.initialized_iff
  · simp [WalletAdvertiser.isInitialized_eq, hk, initialized_def]

theorem Inv.identity_answered_transition (hi : Inv s) (hget : s.tasks[i]? = some ⟨c, st⟩)
    (htr : Transition i s.advertiser c st st' evs a') (k : PublicKey)
    (hk : a'.identity = some k) : SetFromAnswer (s.trace ++ evs) k := by
  rcases htr.identity_cases (hi.guarded_isInitialized hget) with hid | ⟨-, k', hk', rfl⟩
  · exact (hi.identity_answered k (hid ▸ hk)).append evs
  · obtain rfl : k' = k := Option.some.inj (hk'.symm.trans hk)
    exact ⟨s.trace, i, [], rfl⟩

theorem Inv.returned_last_transition (hi : Inv s) (hget : s.tasks[i]? = some ⟨c, st⟩)
    (htr : Transition i s.advertiser c st st' evs a') (pre : List Event) (j : Nat)
    (r : Except AdvertiserError Answer) (post : List Event)
    (h : s.trace ++ evs = pre ++ .returned j r :: post) :
    (∃ c', (s.tasks.set i ⟨c, st'⟩)[j]? = some ⟨c', .returned r⟩) ∧
      ∀ e ∈ post, e.task ≠ j := by
  rcases eq_append_cons_of_append h with ⟨post', hold, rfl⟩ | ⟨evs₁, hevs, rfl⟩
  · obtain ⟨⟨c', hc'⟩, hpost⟩ := hi.returned_last pre j r post' hold
    -- the moving call has not returned, so the call that returned is another one
    have hij : i ≠ j := by
      rintro rfl
      rw [hget] at hc'
      exact htr.ne_returned r (Task.mk.inj (Option.some.inj hc')).2
    refine ⟨⟨c', (List.getElem?_set_ne hij).trans hc'⟩, fun e he => ?_⟩
    rcases List.mem_append.mp he with he | he
    · exact hpost e he
    · rw [htr.task_eq e he]
      exact hij
  · obtain ⟨rfl, rfl, rfl⟩ := htr.eq_returned hevs
    exact ⟨⟨c, by simp [(List.getElem?_eq_some_iff.mp hget).1]⟩, by simp⟩

theorem Inv.before_init_transition (hi : Inv s) (hget : s.tasks[i]? = some ⟨c, st⟩)
    (htr : Transition i s.advertiser c st st' evs a') (pre : List Event) (e : Event)
    (post : List Event) (h : s.trace ++ evs = pre ++ e :: post) (hpre : ¬ Initialized pre) :
    BeforeInit (s.tasks.set i ⟨c, st'⟩) e := by
  rw [beforeInit_congr (congrFun (callOf_set hget st') e.task)]
  rcases eq_append_cons_of_append h with ⟨post', hold, rfl⟩ | ⟨evs₁, hevs, rfl⟩
  · exact hi.before_init pre e post' hold hpre
  · have hcall : callOf s.tasks i = some c := by simp [callOf_eq, hget]
    exact htr.beforeInit hcall (hi.awaiting_isInit hget) (hi.guarded_isInitialized hget)
      (hi.isInitialized_eq_false hpre) e (by simp [hevs])

theorem Inv.late_init_transition (hi : Inv s) (hget : s.tasks[i]? = some ⟨c, st⟩)
    (htr : Transition i s.advertiser c st st' evs a') (pre : List Event) (j : Nat)
    (post : List Event) (h : s.trace ++ evs = pre ++ .started j :: post)
    (hpre : Initialized pre) (hcallj : callOf (s.tasks.set i ⟨c, st'⟩) j = some .init) :
    post.head? = some (.returned j (.error .alreadyInitialized)) := by
  rw [callOf_set hget] at hcallj
  rcases eq_append_cons_of_append h with ⟨post', hold, rfl⟩ | ⟨evs₁, hevs, rfl⟩
  · have hhead := hi.late_init pre j post' hold hpre hcallj
    cases post' with
    | nil => simp at hhead
    | cons x post' => simpa using hhead
  · -- the call starts in this step, its first
    obtain ⟨rfl, rfl⟩ := htr.started_first hevs
    have hc : c = .init := by simpa [callOf_eq, hget] using hcallj
    have ha : s.advertiser.isInitialized = true := hi.initialized_iff.mpr (by simpa using hpre)
    simp [htr.eq_started ha hc hevs]

theorem Inv.ok_unique_transition (hi : Inv s) (hget : s.tasks[i]? = some ⟨c, st⟩)
    (htr : Transition i s.advertiser c st st' evs a') (j₁ j₂ : Nat)
    (h₁ : Event.returned j₁ (.ok .initialized) ∈ s.trace ++ evs)
    (h₂ : Event.returned j₂ (.ok .initialized) ∈ s.trace ++ evs) : j₁ = j₂ := by
  have hg := hi.guarded_isInitialized hget
  -- an `Ok` of this step finds the advertiser uninitialized, so no `Ok` before it
  have hfresh : ∀ {j}, Event.returned j (.ok .initialized) ∈ evs →
      ¬ Initialized s.trace := by
    intro j hj hinit
    have := (htr.eq_initialized hg hj).2.1
    rw [hi.initialized_iff.mpr hinit] at this
    cases this
  rcases List.mem_append.mp h₁ with h₁ | h₁ <;>
    rcases List.mem_append.mp h₂ with h₂ | h₂
  · exact hi.ok_unique j₁ j₂ h₁ h₂
  · exact absurd ⟨j₁, h₁⟩ (hfresh h₂)
  · exact absurd ⟨j₂, h₂⟩ (hfresh h₁)
  · exact (htr.eq_initialized hg h₁).1.trans (htr.eq_initialized hg h₂).1.symm

theorem Inv.transition (hi : Inv s) (hget : s.tasks[i]? = some ⟨c, st⟩)
    (htr : Transition i s.advertiser c st st' evs a') :
    Inv ⟨a', s.tasks.set i ⟨c, st'⟩, s.trace ++ evs⟩ where
  task_lt e he := by
    rw [List.length_set]
    rcases List.mem_append.mp he with he | he
    · exact hi.task_lt e he
    · rw [htr.task_eq e he]
      exact (List.getElem?_eq_some_iff.mp hget).1
  initialized_iff := hi.initialized_iff_transition hget htr
  identity_answered := hi.identity_answered_transition hget htr
  guarded_initialized j c' hj := by
    rcases getElem?_set_eq_some hj with ⟨rfl, ht⟩ | ⟨-, hj⟩
    · -- the moving call passed its guard in this step
      have hst' : st' = .guarded := (Task.mk.inj ht).2.symm
      exact Iff.mpr initialized_append (.inl (hi.initialized_iff.mp (htr.stage_cases.1 hst')))
    · exact Iff.mpr initialized_append (.inl (hi.guarded_initialized j c' hj))
  awaiting_init j c' hj := by
    rcases getElem?_set_eq_some hj with ⟨rfl, ht⟩ | ⟨-, hj⟩
    · obtain ⟨rfl, hst'⟩ := Task.mk.inj ht
      exact htr.stage_cases.2 hst'.symm
    · exact hi.awaiting_init j c' hj
  returned_last := hi.returned_last_transition hget htr
  before_init := hi.before_init_transition hget htr
  late_init := hi.late_init_transition hget htr
  ok_unique := hi.ok_unique_transition hget htr

end Transition

theorem Inv.step {s s' : Running} {m : Move} (hi : Inv s) (h : s.step m = some s') : Inv s' := by
  rcases step_cases h with ⟨c, rfl⟩ | ⟨i, c, st, st', evs, a', hget, htr, rfl⟩
  · exact hi.call c
  · exact hi.transition hget htr

/-- Every state a fresh advertiser reaches satisfies the invariant. -/
theorem Reachable.inv {s : Running} (h : Reachable s) : Inv s := by
  induction h with
  | start a ha => exact inv_start ha
  | step m _ hstep ih => exact ih.step hstep

/-! ## Once set, the identity stays -/

theorem step_identity {s s' : Running} {m : Move} {k : PublicKey} (h : s.step m = some s')
    (hk : s.advertiser.identity = some k) : s'.advertiser.identity = some k := by
  have hinit : s.advertiser.isInitialized = true := by
    simp [WalletAdvertiser.isInitialized_eq, hk]
  rcases step_cases h with ⟨c, rfl⟩ | ⟨i, c, st, st', evs, a', hget, htr, rfl⟩
  · exact hk
  · rcases htr.identity_cases (fun _ => hinit) with hid | ⟨ha, -⟩
    · exact hid.trans hk
    · rw [hinit] at ha
      cases ha

/-- What each step keeps, a run of steps keeps. -/
theorem run_keeps {P : Running → Prop}
    (hstep : ∀ {s s' : Running} {m : Move}, P s → s.step m = some s' → P s')
    {s s' : Running} {ms : List Move} (hs : P s) (h : s.run ms = some s') : P s' := by
  induction ms generalizing s with
  | nil =>
    obtain rfl : s = s' := Option.some.inj h
    exact hs
  | cons m ms ih =>
    rw [run_cons] at h
    obtain ⟨s₁, h₁, h₂⟩ := Option.bind_eq_some_iff.mp h
    exact ih (hstep hs h₁) h₂

theorem run_identity {s s' : Running} {ms : List Move} {k : PublicKey} (h : s.run ms = some s')
    (hk : s.advertiser.identity = some k) : s'.advertiser.identity = some k :=
  run_keeps (fun hk hstep => step_identity hstep hk) hk h

/-! ## The lifecycle -/

/-- A call that returns before any `init` has returned `Ok` never passes its guard: not before
its return, which would need an `Ok` before it, and not after, when it records nothing more. -/
theorem Inv.guarded_not_mem {s : Running} (hi : Inv s) {pre post : List Event} {i : Nat}
    {r : Except AdvertiserError Answer} (hs : s.trace = pre ++ .returned i r :: post)
    (hpre : ¬ Initialized pre) : Event.guarded i ∉ s.trace := by
  intro hg
  rw [hs] at hg
  rcases List.mem_append.mp hg with hg | hg
  · obtain ⟨pre₁, post₁, rfl⟩ := List.append_of_mem hg
    have hpre₁ : ¬ Initialized pre₁ := fun h₁ =>
      hpre (Iff.mpr initialized_append (.inl h₁))
    exact hi.before_init pre₁ (.guarded i) (post₁ ++ .returned i r :: post) (by simp [hs])
      hpre₁
  · rcases List.mem_cons.mp hg with hg | hg
    · cases hg
    · exact (hi.returned_last pre i r post hs).2 _ hg rfl

/-- The lifecycle of an advertiser, read off a state and the trace that led to it. -/
structure Lifecycle (s : Running) : Prop where
  /-- an operation passes its guard only after some `init` has returned `Ok` -/
  guarded_after_init : ∀ pre i post, s.trace = pre ++ .guarded i :: post → Initialized pre
  /-- an operation that returns before any `init` has returned `Ok` is refused with
  `NotInitialized` naming its own operation, and never passes its guard -/
  refused_before_init : ∀ pre i r post c op, s.trace = pre ++ .returned i r :: post →
    ¬ Initialized pre → callOf s.tasks i = some c → c.operation? = some op →
    r = .error (.notInitialized op) ∧ Event.guarded i ∉ s.trace
  /-- at most one `init` returns `Ok` -/
  init_ok_unique : ∀ i j, Event.returned i (.ok .initialized) ∈ s.trace →
    Event.returned j (.ok .initialized) ∈ s.trace → i = j
  /-- an `init` that starts after one has returned `Ok` returns `AlreadyInitialized` at once -/
  late_init_refused : ∀ pre i post, s.trace = pre ++ .started i :: post → Initialized pre →
    callOf s.tasks i = some .init → post.head? = some (.returned i (.error .alreadyInitialized))
  /-- the advertiser is initialized exactly when some `init` has returned `Ok`: a failed `init`
  leaves it as it was -/
  initialized_iff : s.advertiser.isInitialized = true ↔ Initialized s.trace
  /-- the identity is the wallet's answer to the `init` that returned `Ok` -/
  identity_answered : ∀ k, s.advertiser.identity = some k → SetFromAnswer s.trace k
  /-- once set, the identity stays, whatever happens next -/
  identity_kept : ∀ k ms s', s.advertiser.identity = some k → s.run ms = some s' →
    s'.advertiser.identity = some k

/-- Every state a fresh advertiser reaches, under any calls in any interleaving of their steps,
keeps the lifecycle. -/
theorem lifecycle_of_reachable {s : Running} (h : Reachable s) : Lifecycle s := by
  have hi := h.inv
  refine ⟨?guarded, ?refused, hi.ok_unique, hi.late_init, hi.initialized_iff,
    hi.identity_answered, fun k ms s' hk hrun => run_identity hrun hk⟩
  case guarded =>
    intro pre i post hs
    exact Classical.byContradiction fun hpre => hi.before_init pre _ post hs hpre
  case refused =>
    intro pre i r post c op hs hpre hc hop
    exact ⟨hi.before_init pre _ post hs hpre c hc op hop, hi.guarded_not_mem hs hpre⟩

/-- A fresh advertiser after two `init` calls race: both pass their checks before either sets
the identity. A call to read an advertisement made before them is refused; one made after runs. -/
def raceMoves : List Move :=
  [.call .init, .call .init, .call (.parse []), .run 2, .run 0, .run 1,
    .answer 0 (.ok ⟨Secp256k1.Point.base⟩), .answer 1 (.ok ⟨Secp256k1.Point.base⟩),
    .call (.parse []), .run 3, .run 3]

/-- An advertiser for an address with an IPv6 host. -/
def raceAdvertiser : WalletAdvertiser :=
  { config := { advertisableUri := "https://[2001:db8::7]" }
    wallet := ⟨ProtoWallet.anyone, false, []⟩ }

/-- Where the race ends. -/
def raceState : Running :=
  ((start raceAdvertiser).run raceMoves).get (by decide +kernel)

theorem Reachable.run {s s' : Running} {ms : List Move} (h : Reachable s)
    (hrun : s.run ms = some s') : Reachable s' :=
  run_keeps (fun hs hstep => .step _ hs hstep) h hrun

theorem lifecycle_of_reachable_race : Reachable raceState ∧ Lifecycle raceState :=
  have h : Reachable raceState :=
    (Reachable.start raceAdvertiser rfl).run (Option.some_get _).symm
  ⟨h, lifecycle_of_reachable h⟩

/-! ## A call on its own -/

/-- A call run on its own, with the wallet answering with its own identity key, returns what
the call returns in one piece and leaves the advertiser as it does: the steps refine the
sequential operations. -/
theorem run_alone (s : Running) (i : Nat) (c : Call) (hget : s.tasks[i]? = some ⟨c, .made⟩) :
    ∃ ms s', s.run ms = some s' ∧ s'.advertiser = (c.perform s.advertiser).2 ∧
      s'.tasks[i]? = some ⟨c, .returned (c.perform s.advertiser).1⟩ := by
  have hlt := (List.getElem?_eq_some_iff.mp hget).1
  have h₁ := step_run_made hget
  cases hop : c.operation? with
  | none =>
    obtain rfl := Iff.mp Call.operation?_eq_none hop
    cases hinit : s.advertiser.init with
    | error e =>
      -- the checks fail: the call returns at its first step
      refine ⟨[.run i], s.begin i .init, by simp [run_cons, h₁], ?_, ?_⟩ <;>
        simp [begin, hop, hinit, finish_eq, Call.perform_init_of_error hinit, hlt]
    | ok a' =>
      -- the checks pass; the call awaits the wallet, which answers with its own key
      obtain ⟨ha, ha'⟩ := WalletAdvertiser.init_eq_ok hinit
      have hb : s.begin i .init =
          s.advance i ⟨.init, .awaitingIdentity⟩ [.started i, .askedIdentity i] := by
        simp [begin, hop, hinit, advance_eq]
      have hget₁ : (s.begin i .init).tasks[i]? = some ⟨.init, .awaitingIdentity⟩ := by
        simp [hb, hlt]
      have h₂ := step_answer hget₁ (.ok s.advertiser.wallet.keys.identityKey)
      refine ⟨[.run i, .answer i (.ok s.advertiser.wallet.keys.identityKey)],
        (s.begin i .init).receiveIdentity i .init (.ok s.advertiser.wallet.keys.identityKey),
        by simp only [run_cons, h₁, Option.bind_some, h₂, run_nil], ?_, ?_⟩
      · simp [receiveIdentity, hb, ha, Call.perform_init_of_ok hinit, ha']
      · simp [receiveIdentity, hb, ha, Call.perform_init_of_ok hinit, hlt]
  | some op =>
    cases hid : s.advertiser.identityFor op with
    | error e =>
      -- the guard refuses the call, which changes nothing
      obtain ⟨hnone, rfl⟩ := Iff.mp WalletAdvertiser.identityFor_eq_error hid
      refine ⟨[.run i], s.begin i c, by simp [run_cons, h₁], ?_, ?_⟩ <;>
        simp [begin, hop, hid, finish_eq, Call.perform_of_identity_none hop hnone, hlt]
    | ok k =>
      -- the guard passes, and the work is the whole call
      have hb : s.begin i c = s.advance i ⟨c, .guarded⟩ [.started i, .guarded i] := by
        simp [begin, hop, hid, advance_eq]
      have hget₁ : (s.begin i c).tasks[i]? = some ⟨c, .guarded⟩ := by
        simp [hb, hlt]
      refine ⟨[.run i, .run i], (s.begin i c).work i c,
        by simp only [run_cons, h₁, Option.bind_some, step_run_guarded hget₁, run_nil],
        ?_, ?_⟩ <;>
        simp [work, finish_eq, advance_eq, hb, hlt]

end Running

end ShipSlap.Advertiser
