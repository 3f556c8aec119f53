import Mathlib
import ShipSlap.Proofs.Token.PushDrop
/-!
The PushDrop grammar. A PushDrop lock is `<key> OP_CHECKSIG` with fields that are pushed and
dropped again, in one of two layouts: `<key> OP_CHECKSIG <field>… <drops>` or
`<field>… <drops> <key> OP_CHECKSIG`. There is at least one field, every push counts as a field
(the small-number and `OP_1NEGATE` opcodes included), and the drops, `OP_DROP` removing one
item and `OP_2DROP` two, remove exactly the fields.

Main statement: `decode_eq_ok_iff`, reading accepts exactly the scripts whose chunks have one of
the two layouts and whose key bytes read as a key, and it returns that key and those fields.

The reader does not follow the grammar: it picks the layout by the second chunk, takes the
fields as the pushes after the lock, and totals what follows them. `decode_eq_ok` says what a
successful read found; `splitLock_eq_ok` that the lock was at one end or the other;
`countDrops_eq_ok_iff` that what follows the fields is drops removing exactly that many items.
Back, a lock-first layout has `OP_CHECKSIG` second, and a lock-last one has none before its
lock, so the reader splits each as written.
-/
namespace ShipSlap.PushDrop

open Script

/-- Drop opcodes removing `n` stack items in all: `OP_DROP` one, `OP_2DROP` two. -/
inductive Drops : List Chunk → Nat → Prop
  | nil : Drops [] 0
  | drop {cs : List Chunk} {n : Nat} : Drops cs n → Drops (.op 0x75 :: cs) (n + 1)
  | drop2 {cs : List Chunk} {n : Nat} : Drops cs n → Drops (.op 0x6d :: cs) (n + 2)

/-- The chunks of a PushDrop lock on the key bytes `k` carrying `fields`: the lock first or
last, and drops removing the fields. -/
inductive Layout : List Chunk → Bytes → List Bytes → Prop
  | lockFirst {k : Bytes} {fields : List Bytes} {ds : List Chunk} :
      fields ≠ [] → Drops ds fields.length →
      Layout (.push k :: .op opCheckSig :: (fields.map .push ++ ds)) k fields
  | lockLast {k : Bytes} {fields : List Bytes} {ds : List Chunk} :
      fields ≠ [] → Drops ds fields.length →
      Layout (fields.map .push ++ ds ++ [.push k, .op opCheckSig]) k fields

/-! ## Drops -/

theorem dropCount?_eq_some {c : Chunk} {k : Nat} :
    c.dropCount? = some k ↔ (c = .op 0x75 ∧ k = 1) ∨ (c = .op 0x6d ∧ k = 2) := by
  unfold Chunk.dropCount?
  split <;> simp_all [eq_comm]

/-- **What the reader totals after the fields is a run of drops removing that many items.** -/
theorem countDrops_eq_ok_iff {cs : List Chunk} {n : Nat} : countDrops cs = .ok n ↔ Drops cs n := by
  constructor
  · intro h
    induction cs generalizing n with
    | nil =>
      cases h
      exact .nil
    | cons c rest ih =>
      rw [countDrops] at h
      split at h
      · rename_i k hk
        cases hrest : countDrops rest with
        | error e => simp [hrest, Except.map] at h
        | ok m =>
          simp only [hrest, Except.map, Except.ok.injEq] at h
          subst h
          rcases Iff.mp dropCount?_eq_some hk with ⟨rfl, rfl⟩ | ⟨rfl, rfl⟩
          · rw [Nat.add_comm]
            exact .drop (ih hrest)
          · rw [Nat.add_comm]
            exact .drop2 (ih hrest)
      · cases h
  · intro h
    induction h with
    | nil => rfl
    | drop _ ih =>
      show (countDrops _).map (1 + ·) = _
      rw [ih, Nat.add_comm]
      rfl
    | drop2 _ ih =>
      show (countDrops _).map (2 + ·) = _
      rw [ih, Nat.add_comm]
      rfl

theorem Drops.mem {ds : List Chunk} {n : Nat} (h : Drops ds n) {c : Chunk} (hc : c ∈ ds) :
    c = .op 0x75 ∨ c = .op 0x6d := by
  induction h with
  | nil => cases hc
  | drop _ ih =>
    rcases List.mem_cons.mp hc with rfl | hc
    · exact .inl rfl
    · exact ih hc
  | drop2 _ ih =>
    rcases List.mem_cons.mp hc with rfl | hc
    · exact .inr rfl
    · exact ih hc

/-! ## The fields -/

/-- The fields are the pushes in front of the drops. -/
theorem leadingPushes_append_drops (fields : List Bytes) {ds : List Chunk} {n : Nat}
    (h : Drops ds n) : leadingPushes (fields.map .push ++ ds) = fields := by
  induction fields with
  | nil => cases h <;> rfl
  | cons f fields ih => simp [leadingPushes, ih]

/-- A chunk list is its leading pushes and what follows them. -/
theorem map_push_leadingPushes_append (body : List Chunk) :
    (leadingPushes body).map .push ++ body.drop (leadingPushes body).length = body := by
  induction body with
  | nil => rfl
  | cons c rest ih =>
    cases c with
    | push d => simp [leadingPushes, ih]
    | op o => rfl

/-! ## The lock -/

/-- A list of two or more is what comes before its last two, then those two. -/
theorem eq_take_append_pair {α : Type} {l : List α} (h : 2 ≤ l.length) :
    ∃ pre a b, l = pre ++ [a, b] := by
  rcases List.eq_nil_or_concat l with rfl | ⟨l₁, b, rfl⟩
  · simp at h
  rcases List.eq_nil_or_concat l₁ with rfl | ⟨pre, a, rfl⟩
  · simp at h
  exact ⟨pre, a, b, by simp⟩

/-- **The lock is at one end.** A split gives the lock and the body in the lock-first layout,
or in the lock-last one. -/
theorem splitLock_eq_ok {chunks : List Chunk} {lock : Chunk} {body : List Chunk}
    (h : splitLock chunks = .ok (lock, body)) :
    chunks = lock :: .op opCheckSig :: body ∨ chunks = body ++ [lock, .op opCheckSig] := by
  unfold splitLock at h
  dsimp only at h
  split at h
  · rename_i first second rest
    split_ifs at h with hsecond hlast
    · cases h
      exact .inl (by rw [hsecond])
    · -- the lock is the second chunk from the end, the body all before it
      obtain ⟨pre, a, b, hsplit⟩ :=
        eq_take_append_pair (show 2 ≤ (first :: second :: rest).length by simp)
      rw [hsplit] at h hlast ⊢
      have hb : b = .op opCheckSig := by simpa using hlast
      have hlen : (pre ++ [a, b]).length - 2 = pre.length := by simp
      simp only [hlen, Except.ok.injEq, Prod.mk.injEq] at h
      obtain ⟨rfl, rfl⟩ := h
      subst hb
      right
      simp [List.getD_eq_getElem?_getD]
  · cases h

theorem splitLock_lockFirst (k : Bytes) (rest : List Chunk) :
    splitLock (.push k :: .op opCheckSig :: rest) = .ok (.push k, rest) := by
  simp [splitLock]

/-! ## Reading -/

/-- **What a successful read found**: the chunks of the script, a lock pushing key bytes that
read as the key, and a body whose leading pushes are the fields, at least one, followed by drops
that remove exactly the fields. -/
theorem decode_eq_ok {script : Bytes} {key : PublicKey} {fields : List Bytes} :
    decode script = .ok ⟨key, fields⟩ ↔
      ∃ chunks k body, Script.parse script = .ok chunks ∧ splitLock chunks = .ok (.push k, body) ∧
        PublicKey.ofBytes k = .ok key ∧ leadingPushes body = fields ∧ fields ≠ [] ∧
        countDrops (body.drop fields.length) = .ok fields.length := by
  unfold decode
  cases hp : Script.parse script with
  | error e => simp [Except.mapError, bind, Except.bind]
  | ok chunks =>
    cases hs : splitLock chunks with
    | error e => simp [Except.mapError, bind, Except.bind, hs]
    | ok lb =>
      obtain ⟨lock, body⟩ := lb
      cases lock with
      | op o => simp [Except.mapError, bind, Except.bind, hs, Chunk.data?]
      | push k =>
        cases hk : PublicKey.ofBytes k with
        | error e => simp [Except.mapError, bind, Except.bind, hs, Chunk.data?, hk]
        | ok key' =>
          by_cases hne : leadingPushes body = []
          · -- no fields: refused, and the grammar needs one
            simp [Except.mapError, bind, Except.bind, hs, Chunk.data?, hk, hne, throw, throwThe,
              MonadExceptOf.throw]
            intro _ hnil hne'
            exact absurd hnil hne'
          · cases hc : countDrops (body.drop (leadingPushes body).length) with
            | error e =>
              -- what follows the fields is not all drops
              simp [Except.mapError, bind, Except.bind, hs, Chunk.data?, hk, hc, hne]
              rintro - rfl -
              simp [hc]
            | ok m =>
              by_cases hm : m = (leadingPushes body).length
              · -- the drops remove the fields: the token is the key and the leading pushes
                simp [Except.mapError, bind, Except.bind, hs, Chunk.data?, hk, hc, hne, hm, pure,
                  Except.pure]
                rintro rfl rfl
                exact ⟨hne, hm ▸ hc⟩
              · -- the drops remove another number of items
                simp [Except.mapError, bind, Except.bind, hs, Chunk.data?, hk, hc, hne, hm, throw,
                  throwThe, MonadExceptOf.throw]
                rintro - rfl -
                rw [hc]
                exact fun h => hm (Except.ok.inj h)

/-- **Reading accepts exactly the PushDrop grammar.** A script reads as a token exactly when its
chunks have one of the two layouts for some key bytes that read as the token's key, and the
fields of the layout are the token's. -/
theorem decode_eq_ok_iff {script : Bytes} {t : PushDropToken} :
    decode script = .ok t ↔
      ∃ chunks k, Script.parse script = .ok chunks ∧ Layout chunks k t.fields ∧
        PublicKey.ofBytes k = .ok t.lockingKey := by
  obtain ⟨key, fields⟩ := t
  rw [decode_eq_ok]
  constructor
  · rintro ⟨chunks, k, body, hp, hs, hk, hlead, hne, hdrops⟩
    -- the body is the pushes of the fields and then drops removing them
    have hbody := map_push_leadingPushes_append body
    rw [hlead] at hbody
    have hD := Iff.mp countDrops_eq_ok_iff hdrops
    refine ⟨chunks, k, hp, ?_, hk⟩
    rcases splitLock_eq_ok hs with rfl | rfl
    · rw [← hbody]
      exact .lockFirst hne hD
    · rw [← hbody]
      exact .lockLast hne hD
  · rintro ⟨chunks, k, hp, hlay, hk⟩
    cases hlay with
    | lockFirst hne hD =>
      refine ⟨_, k, _, hp, splitLock_lockFirst k _, hk, leadingPushes_append_drops _ hD, hne, ?_⟩
      rw [List.drop_left' (by simp)]
      exact Iff.mpr countDrops_eq_ok_iff hD
    | @lockLast _ _ ds hne hD =>
      -- no chunk before the lock is an `OP_CHECKSIG`, so the split finds the lock at the end
      have hbody : ∀ c ∈ fields.map Chunk.push ++ ds, c ≠ .op opCheckSig := by
        intro c hc
        rcases List.mem_append.mp hc with hc | hc
        · obtain ⟨f, -, rfl⟩ := List.mem_map.mp hc
          exact Chunk.noConfusion
        · rcases hD.mem hc with rfl | rfl <;> decide
      refine ⟨_, k, _, hp, splitLock_append_lock hbody Chunk.noConfusion, hk,
        leadingPushes_append_drops _ hD, hne, ?_⟩
      rw [List.drop_left' (by simp)]
      exact Iff.mpr countDrops_eq_ok_iff hD

end ShipSlap.PushDrop
