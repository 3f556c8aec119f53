import ShipSlap.Advertiser.Service
/-!
Calls that run at once on one advertiser.

The advertiser's operations are asynchronous: a call runs until it awaits, and other calls run
meanwhile. Its identity is a cell that is set atomically and at most once. Here a call is a
task that moves through its stages one step at a time, and a run is any order of the steps the
tasks allow.

* `init` first makes its checks (not initialized yet, advertisable URI valid), then awaits the
  wallet's identity key. When the answer comes it sets the cell; the set fails if another
  `init` set it meanwhile.
* Every other operation first reads the cell (its guard), then does its work with the wallet,
  the resolver and the bundle codec. That work is one step: it reads the cell only once more,
  when the cell is set for good, and the lifecycle reads nothing it changes.

Each step appends what it did to the trace: a call starting, an `init` asking for and receiving
the identity key, an operation passing its guard, a call returning.
-/
namespace ShipSlap.Advertiser

/-- A call made on the advertiser, with its arguments. -/
inductive Call where
  | init
  | create (ads : List AdvertisementData)
  | parse (script : Bytes)
  | findAll (p : Protocol)
  | revoke (ads : List Advertisement)

/-- The operation a call performs, for the calls that need an initialized advertiser. -/
def Call.operation? : Call → Option Operation
  | .init => none
  | .create _ => some .createAdvertisements
  | .parse _ => some .parseAdvertisement
  | .findAll _ => some .findAllAdvertisements
  | .revoke _ => some .revokeAdvertisements

/-- What a call gives when it succeeds. -/
inductive Answer where
  | initialized
  | bundle (b : TaggedBundle)
  | advertisement (ad : Advertisement)
  | advertisements (ads : List Advertisement)

/-- A call run on its own, from start to return: what it returns and the advertiser after it. -/
def Call.perform : Call → WalletAdvertiser → Except AdvertiserError Answer × WalletAdvertiser
  | .init, a =>
    match a.init with
    | .ok a' => (.ok .initialized, a')
    | .error e => (.error e, a)
  | .create ads, a =>
    match a.create ads with
    | .ok (b, a') => (.ok (.bundle b), a')
    | .error e => (.error e, a)
  | .parse script, a => ((a.parse script).map .advertisement, a)
  | .findAll p, a => ((a.findAll p).1.map .advertisements, (a.findAll p).2)
  | .revoke ads, a => ((a.revoke ads).1.map .bundle, (a.revoke ads).2)

/-- Where a call stands between two of its steps. -/
inductive Stage where
  /-- made, not yet run -/
  | made
  /-- an `init` past its checks, awaiting the wallet's identity key -/
  | awaitingIdentity
  /-- an operation past its guard, about to do its work -/
  | guarded
  | returned (r : Except AdvertiserError Answer)

/-- A call in flight. -/
structure Task where
  call : Call
  stage : Stage

/-- What a step did, as the trace records it; `task` numbers the call. -/
inductive Event where
  /-- the call's first step: `init`'s checks or an operation's guard -/
  | started (task : Nat)
  | askedIdentity (task : Nat)
  | identityAnswered (task : Nat) (answer : Except WalletError PublicKey)
  /-- an operation passed its guard and goes on to its wallet, resolver and codec calls -/
  | guarded (task : Nat)
  | returned (task : Nat) (r : Except AdvertiserError Answer)

/-- The call an event belongs to. -/
def Event.task : Event → Nat
  | .started i | .askedIdentity i | .identityAnswered i _ | .guarded i | .returned i _ => i

/-- The advertiser, the calls made on it so far (numbered in order) and the trace of their
steps. -/
structure Running where
  advertiser : WalletAdvertiser
  tasks : List Task
  trace : List Event

/-- What can happen next. -/
inductive Move where
  /-- a new call is made -/
  | call (c : Call)
  /-- call `i` runs to its next await or its return -/
  | run (i : Nat)
  /-- the wallet answers call `i`'s request for the identity key -/
  | answer (i : Nat) (identity : Except WalletError PublicKey)

namespace Running

/-- The advertiser before any call is made on it. -/
def start (a : WalletAdvertiser) : Running := ⟨a, [], []⟩

/-- Call `i` moves to `t`, and the trace records `events`. -/
def advance (s : Running) (i : Nat) (t : Task) (events : List Event) : Running :=
  { s with tasks := s.tasks.set i t, trace := s.trace ++ events }

/-- Call `i`, of `c`, returns `r` and leaves the advertiser `a`. -/
def finish (s : Running) (i : Nat) (c : Call) (r : Except AdvertiserError Answer)
    (a : WalletAdvertiser) : Running :=
  { s.advance i ⟨c, .returned r⟩ [.returned i r] with advertiser := a }

/-- The first step of call `i`: the checks of `init`, or the guard of an operation. -/
def begin (s : Running) (i : Nat) (c : Call) : Running :=
  let s := { s with trace := s.trace ++ [Event.started i] }
  match c.operation? with
  | none =>
    -- the checks of `init` are those of initializing on its own; its set waits for the wallet
    match s.advertiser.init with
    | .error e => s.finish i c (.error e) s.advertiser
    | .ok _ => s.advance i ⟨c, .awaitingIdentity⟩ [.askedIdentity i]
  | some op =>
    match s.advertiser.identityFor op with
    | .error e => s.finish i c (.error e) s.advertiser
    | .ok _ => s.advance i ⟨c, .guarded⟩ [.guarded i]

/-- An operation past its guard does its work and returns. -/
def work (s : Running) (i : Nat) (c : Call) : Running :=
  s.finish i c (c.perform s.advertiser).1 (c.perform s.advertiser).2

/-- The wallet's answer reaches `init` call `i`, which sets the identity unless it is set. -/
def receiveIdentity (s : Running) (i : Nat) (c : Call)
    (answer : Except WalletError PublicKey) : Running :=
  let s := { s with trace := s.trace ++ [Event.identityAnswered i answer] }
  match answer with
  | .error e => s.finish i c (.error (.wallet e)) s.advertiser
  | .ok k =>
    -- another `init` may have set the cell while this one awaited
    if s.advertiser.isInitialized then s.finish i c (.error .alreadyInitialized) s.advertiser
    else s.finish i c (.ok .initialized) { s.advertiser with identity := some k }

/-- One step, if the move is possible: a call is made, runs, or receives the identity key. -/
def step (s : Running) : Move → Option Running
  | .call c => some { s with tasks := s.tasks ++ [⟨c, .made⟩] }
  | .run i =>
    match s.tasks[i]? with
    | some ⟨c, .made⟩ => some (s.begin i c)
    | some ⟨c, .guarded⟩ => some (s.work i c)
    | _ => none
  | .answer i identity =>
    match s.tasks[i]? with
    | some ⟨c, .awaitingIdentity⟩ => some (s.receiveIdentity i c identity)
    | _ => none

/-- The moves one after another, while each is possible. -/
def run (s : Running) : List Move → Option Running
  | [] => some s
  | m :: ms => (s.step m).bind fun s' => s'.run ms

/-- The states a fresh advertiser reaches, whatever calls are made and however their steps
interleave. -/
inductive Reachable : Running → Prop
  | start (a : WalletAdvertiser) : a.identity = none → Reachable (start a)
  | step {s s' : Running} (m : Move) : Reachable s → s.step m = some s' → Reachable s'

@[simp] theorem advance_advertiser (s : Running) (i : Nat) (t : Task) (events : List Event) :
    (s.advance i t events).advertiser = s.advertiser := rfl

@[simp] theorem advance_tasks (s : Running) (i : Nat) (t : Task) (events : List Event) :
    (s.advance i t events).tasks = s.tasks.set i t := rfl

@[simp] theorem advance_trace (s : Running) (i : Nat) (t : Task) (events : List Event) :
    (s.advance i t events).trace = s.trace ++ events := rfl

@[simp] theorem finish_advertiser (s : Running) (i : Nat) (c : Call) (r) (a : WalletAdvertiser) :
    (s.finish i c r a).advertiser = a := rfl

@[simp] theorem finish_tasks (s : Running) (i : Nat) (c : Call) (r) (a : WalletAdvertiser) :
    (s.finish i c r a).tasks = s.tasks.set i ⟨c, .returned r⟩ := rfl

@[simp] theorem finish_trace (s : Running) (i : Nat) (c : Call) (r) (a : WalletAdvertiser) :
    (s.finish i c r a).trace = s.trace ++ [.returned i r] := rfl

theorem step_run_made {s : Running} {i : Nat} {c : Call} (h : s.tasks[i]? = some ⟨c, .made⟩) :
    s.step (.run i) = some (s.begin i c) := by
  simp [step, h]

theorem step_run_guarded {s : Running} {i : Nat} {c : Call}
    (h : s.tasks[i]? = some ⟨c, .guarded⟩) : s.step (.run i) = some (s.work i c) := by
  simp [step, h]

theorem step_answer {s : Running} {i : Nat} {c : Call}
    (h : s.tasks[i]? = some ⟨c, .awaitingIdentity⟩) (answer : Except WalletError PublicKey) :
    s.step (.answer i answer) = some (s.receiveIdentity i c answer) := by
  simp [step, h]

@[simp] theorem run_nil (s : Running) : s.run [] = some s := rfl

theorem run_cons (s : Running) (m : Move) (ms : List Move) :
    s.run (m :: ms) = (s.step m).bind fun s' => s'.run ms := rfl

end Running

end ShipSlap.Advertiser
