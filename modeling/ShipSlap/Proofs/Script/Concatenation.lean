import Mathlib
import ShipSlap.Proofs.Token.PushDrop
/-!
Reading a script chunk by chunk. Main statement: `parse_ofChunks`, chunks written one after
another read back as the same chunks, for pushes of data shorter than `2 ^ 32` bytes and for
opcodes that push nothing (`OP_RESERVED`, and every opcode from `OP_NOP` on).

It follows from reading being a homomorphism of concatenation (`parse_append`): once a script
reads, whatever follows it is read as a script of its own, its chunks after the first
script's, and a push it truncates is reported at its own offset shifted by the length of the
first script (`parseFrom_add`). Reading repeats one step, the chunk at the front of the script
and the bytes it takes (`chunkAt`); the step looks no further than those bytes
(`chunkAt_spans`), so the reader starts afresh at every chunk boundary.
-/
namespace ShipSlap

/-- The bytes a chunk is written as: the shortest push of its data, or its opcode. -/
def Chunk.toBytes : Chunk → Bytes
  | .push d => Script.pushData d
  | .op o => [o]

/-- A chunk that reads back as itself once written: a push of data whose length fits the
widest length field, or an opcode that pushes nothing. -/
def Chunk.Writable : Chunk → Prop
  | .push d => d.length < 2 ^ 32
  | .op o => o = 0x50 ∨ 0x61 ≤ o

instance : DecidablePred Chunk.Writable := fun c =>
  match c with
  | .push d => inferInstanceAs (Decidable (d.length < 2 ^ 32))
  | .op o => inferInstanceAs (Decidable (o = 0x50 ∨ 0x61 ≤ o))

namespace Script

/-- Chunks written one after another. -/
def ofChunks (cs : List Chunk) : Bytes :=
  cs.flatMap Chunk.toBytes

/-- The chunk at the front of a script and how many bytes it takes; `none` for a push that runs
past the end. -/
def chunkAt : Bytes → Option (Chunk × Nat)
  | [] => none
  | op :: rest =>
    if op.toNat = 0 then some (.push [], 1)
    else if op.toNat = 0x4f then some (.push [0x81], 1)
    else if 0x51 ≤ op.toNat ∧ op.toNat ≤ 0x60 then some (.push [op - 0x50], 1)
    else if 1 ≤ op.toNat ∧ op.toNat ≤ 0x4b then
      if op.toNat ≤ rest.length then some (.push (rest.take op.toNat), 1 + op.toNat) else none
    else match lengthWidth? op with
      | some w =>
        if w ≤ rest.length ∧ leValue (rest.take w) ≤ (rest.drop w).length then
          some (.push ((rest.drop w).take (leValue (rest.take w))), 1 + w + leValue (rest.take w))
        else none
      | none => some (.op op, 1)

theorem chunkAt_cons (op : UInt8) (rest : Bytes) : chunkAt (op :: rest) =
    if op.toNat = 0 then some (.push [], 1)
    else if op.toNat = 0x4f then some (.push [0x81], 1)
    else if 0x51 ≤ op.toNat ∧ op.toNat ≤ 0x60 then some (.push [op - 0x50], 1)
    else if 1 ≤ op.toNat ∧ op.toNat ≤ 0x4b then
      if op.toNat ≤ rest.length then some (.push (rest.take op.toNat), 1 + op.toNat) else none
    else match lengthWidth? op with
      | some w =>
        if w ≤ rest.length ∧ leValue (rest.take w) ≤ (rest.drop w).length then
          some (.push ((rest.drop w).take (leValue (rest.take w))), 1 + w + leValue (rest.take w))
        else none
      | none => some (.op op, 1) := rfl

example : chunkAt [0x4c, 2, 7, 7, 0xac] = some (.push [7, 7], 4) ∧ chunkAt [0x4d, 1] = none ∧
    chunkAt [0x05, 1, 2] = none := by
  decide

/-- **A chunk lies within the script it is read from**: it takes its opcode and at most the
rest, and bytes appended after it do not change it. -/
theorem chunkAt_spans {bs : Bytes} {c : Chunk} {n : Nat} (h : chunkAt bs = some (c, n)) :
    0 < n ∧ n ≤ bs.length ∧ ∀ r, chunkAt (bs ++ r) = some (c, n) := by
  cases bs with
  | nil => cases h
  | cons op rest =>
    rw [chunkAt_cons] at h
    simp only [List.cons_append, List.length_cons]
    split_ifs at h with h0 h4f hsmall hdirect hfits
    · -- `OP_0`
      cases h
      exact ⟨by omega, by omega, fun r => by rw [chunkAt_cons, if_pos h0]⟩
    · -- `OP_1NEGATE`
      cases h
      exact ⟨by omega, by omega, fun r => by rw [chunkAt_cons, if_neg h0, if_pos h4f]⟩
    · -- `OP_1` to `OP_16`
      cases h
      exact ⟨by omega, by omega, fun r => by rw [chunkAt_cons, if_neg h0, if_neg h4f, if_pos hsmall]⟩
    · -- a direct push: its data is the front of `rest`, and so of `rest ++ r`
      cases h
      refine ⟨by omega, by omega, fun r => ?_⟩
      rw [chunkAt_cons, if_neg h0, if_neg h4f, if_neg hsmall, if_pos hdirect,
        if_pos (by simp only [List.length_append]; omega), List.take_append_of_le_length hfits]
    · cases hw : lengthWidth? op with
      | none =>
        rw [hw] at h
        cases h
        exact ⟨by omega, by omega, fun r => by
          rw [chunkAt_cons, if_neg h0, if_neg h4f, if_neg hsmall, if_neg hdirect, hw]⟩
      | some w =>
        rw [hw] at h
        dsimp only at h
        split_ifs at h with hfits
        cases h
        obtain ⟨hw', hn⟩ := hfits
        rw [List.length_drop] at hn
        refine ⟨by omega, by omega, fun r => ?_⟩
        -- the length field and the data both lie within `rest`
        have htake : (rest ++ r).take w = rest.take w := List.take_append_of_le_length hw'
        have hdrop : (rest ++ r).drop w = rest.drop w ++ r := List.drop_append_of_le_length hw'
        rw [chunkAt_cons, if_neg h0, if_neg h4f, if_neg hsmall, if_neg hdirect, hw]
        dsimp only
        rw [htake, hdrop, if_pos ⟨by simp only [List.length_append]; omega,
          by simp only [List.length_append, List.length_drop]; omega⟩,
          List.take_append_of_le_length (by simp only [List.length_drop]; omega)]

/-- Reading takes the chunk at the front and reads on after the bytes it takes. -/
theorem parseFrom_of_chunkAt {pos : Nat} {bs : Bytes} {c : Chunk} {n : Nat}
    (h : chunkAt bs = some (c, n)) :
    parseFrom pos bs = (parseFrom (pos + n) (bs.drop n)).map (c :: ·) := by
  cases bs with
  | nil => cases h
  | cons op rest =>
    rw [parseFrom_cons_eq]
    rw [chunkAt_cons] at h
    split_ifs at h ⊢ with h0 h4f hsmall hdirect hfits
    · cases h
      rfl
    · cases h
      rfl
    · cases h
      rfl
    · -- a direct push takes its opcode and then `op.toNat` bytes
      cases h
      rw [Nat.add_assoc, Nat.add_comm 1 op.toNat, List.drop_succ_cons]
    · cases hw : lengthWidth? op with
      | none =>
        rw [hw] at h
        cases h
        rfl
      | some w =>
        rw [hw] at h
        dsimp only at h ⊢
        split_ifs at h with hfits
        cases h
        rw [if_pos hfits.1, if_pos hfits.2, Nat.add_assoc (pos + 1), Nat.add_assoc pos,
          Nat.add_assoc 1, Nat.add_comm 1, List.drop_succ_cons, List.drop_drop]

/-- Reading fails at the offset of a chunk that runs past the end. -/
theorem parseFrom_of_chunkAt_eq_none {pos : Nat} {op : UInt8} {rest : Bytes}
    (h : chunkAt (op :: rest) = none) : parseFrom pos (op :: rest) = .error pos := by
  rw [parseFrom_cons_eq]
  rw [chunkAt_cons] at h
  split_ifs at h ⊢ with h0 h4f hsmall hdirect hfits
  · rfl
  · cases hw : lengthWidth? op with
    | none =>
      rw [hw] at h
      cases h
    | some w =>
      rw [hw] at h
      dsimp only at h ⊢
      -- the reader tests the two bounds one after the other, the step both at once
      have hfit : ¬(w ≤ rest.length ∧ leValue (rest.take w) ≤ (rest.drop w).length) := by
        intro hfit
        rw [if_pos hfit] at h
        cases h
      split_ifs with hfits hlen
      · exact absurd ⟨hfits, hlen⟩ hfit
      · rfl
      · rfl

/-- A read that puts `c` in front of what the rest reads succeeds exactly when the rest does. -/
theorem map_cons_eq_ok {x : Except Nat (List Chunk)} {c : Chunk} {cs : List Chunk}
    (h : x.map (c :: ·) = .ok cs) : ∃ cs', x = .ok cs' ∧ cs = c :: cs' := by
  cases x with
  | error e => cases h
  | ok cs' =>
    cases h
    exact ⟨cs', rfl, rfl⟩

/-- **Offsets are relative to where reading starts**: reading from `pos + k` gives the same
chunks, and reports a truncated push `k` bytes further on. -/
theorem parseFrom_add (pos k : Nat) (bs : Bytes) :
    parseFrom (pos + k) bs = (parseFrom pos bs).mapError (· + k) := by
  cases bs with
  | nil =>
    rw [parseFrom_nil, parseFrom_nil]
    rfl
  | cons op rest =>
    cases hc : chunkAt (op :: rest) with
    | none =>
      rw [parseFrom_of_chunkAt_eq_none hc, parseFrom_of_chunkAt_eq_none hc]
      rfl
    | some p =>
      obtain ⟨c, n⟩ := p
      have hn := (chunkAt_spans hc).1
      rw [parseFrom_of_chunkAt hc, parseFrom_of_chunkAt hc, Nat.add_right_comm,
        parseFrom_add (pos + n) k]
      cases parseFrom (pos + n) _ <;> rfl
termination_by bs.length
decreasing_by simp only [List.length_drop, List.length_cons]; omega

/-- **Reading a concatenation.** Once `a` reads as `ca`, the chunks of `a ++ b` are `ca`
followed by those of `b`, read on from the end of `a`. -/
theorem parseFrom_append {pos : Nat} {a : Bytes} {ca : List Chunk} (h : parseFrom pos a = .ok ca)
    (b : Bytes) : parseFrom pos (a ++ b) = (parseFrom (pos + a.length) b).map (ca ++ ·) := by
  match a with
  | [] =>
    rw [parseFrom_nil] at h
    cases h
    rw [List.nil_append, List.length_nil, Nat.add_zero]
    cases parseFrom pos b <;> rfl
  | op :: rest =>
    cases hc : chunkAt (op :: rest) with
    | none =>
      rw [parseFrom_of_chunkAt_eq_none hc] at h
      cases h
    | some p =>
      obtain ⟨c, n⟩ := p
      obtain ⟨hn, hlen, happ⟩ := chunkAt_spans hc
      rw [parseFrom_of_chunkAt hc] at h
      obtain ⟨ca', h', rfl⟩ := map_cons_eq_ok h
      -- the first chunk of `a ++ b` is that of `a`, and the reader goes on inside `a`
      rw [parseFrom_of_chunkAt (happ b), List.drop_append_of_le_length hlen,
        parseFrom_append h' b, List.length_drop]
      have hend : pos + n + ((op :: rest).length - n) = pos + (op :: rest).length := by omega
      rw [hend]
      cases parseFrom _ b <;> rfl
termination_by a.length
decreasing_by simp only [List.length_drop, List.length_cons]; omega

/-- `parseFrom_append` for whole scripts: a push that `b` truncates is reported at its offset in
`b` moved on by the length of `a`. -/
theorem parse_append {a : Bytes} {ca : List Chunk} (h : parse a = .ok ca) (b : Bytes) :
    parse (a ++ b) = ((parse b).map (ca ++ ·)).mapError (· + a.length) := by
  rw [parse_eq, parse_eq]
  rw [parseFrom_append h b, parseFrom_add 0 a.length b]
  cases parseFrom 0 b <;> rfl

/-- Opcodes outside `OP_PUSHDATA1` to `OP_PUSHDATA4` have no length field. -/
theorem lengthWidth?_eq_none {op : UInt8} (h : op.toNat < 0x4c ∨ 0x4e < op.toNat) :
    lengthWidth? op = none := by
  have hne : ∀ k : UInt8, 0x4c ≤ k.toNat → k.toNat ≤ 0x4e → op ≠ k := by
    rintro k h1 h2 rfl
    omega
  rw [lengthWidth?, if_neg (hne 0x4c (by decide) (by decide)),
    if_neg (hne 0x4d (by decide) (by decide)), if_neg (hne 0x4e (by decide) (by decide))]

/-- A written chunk reads back as itself. -/
theorem parse_toBytes {c : Chunk} (hc : c.Writable) : parse c.toBytes = .ok [c] := by
  cases c with
  | push d =>
    have h := parseFrom_pushData_append 0 hc []
    rw [List.append_nil] at h
    rw [Chunk.toBytes, parse_eq, h, parseFrom_nil]
    rfl
  | op o =>
    have ho : o.toNat = 0x50 ∨ 0x61 ≤ o.toNat := by
      rcases hc with rfl | hc
      · exact .inl rfl
      · exact .inr (UInt8.le_iff_toNat_le.mp hc)
    -- an opcode that pushes nothing is a chunk of one byte
    have hop : chunkAt [o] = some (.op o, 1) := by
      rw [chunkAt_cons, if_neg (by omega), if_neg (by omega), if_neg (by omega), if_neg (by omega),
        lengthWidth?_eq_none (by omega)]
    rw [Chunk.toBytes, parse_eq, parseFrom_of_chunkAt hop, List.drop_one, List.tail_cons,
      parseFrom_nil]
    rfl

/-- **Reading undoes writing.** Chunks written one after another read back as the same chunks,
as long as each push fits a length field and each opcode pushes nothing; the proof reads one
written chunk at a time, which reading a concatenation allows. -/
theorem parse_ofChunks (cs : List Chunk) (hcs : ∀ c ∈ cs, c.Writable) :
    parse (ofChunks cs) = .ok cs ∧
      ∀ (a b : Bytes) (ca : List Chunk), parse a = .ok ca →
        parse (a ++ b) = ((parse b).map (ca ++ ·)).mapError (· + a.length) := by
  refine ⟨?_, fun a b ca h => parse_append h b⟩
  -- induction on the chunks: the first one is read on its own, the rest after it
  induction cs with
  | nil => rw [ofChunks, List.flatMap_nil, parse_eq, parseFrom_nil]
  | cons c cs ih =>
    have hc : parse c.toBytes = .ok [c] := parse_toBytes (hcs c (List.mem_cons_self ..))
    have hrest : parse (ofChunks cs) = .ok cs :=
      ih (fun d hd => hcs d (List.mem_cons_of_mem c hd))
    rw [ofChunks, List.flatMap_cons, parse_append hc, ← ofChunks, hrest]
    rfl

/-- A script with a chunk of every kind: the one-byte pushes, a direct push of a zero byte,
pushes behind a one-byte and a two-byte length field, and opcodes that push nothing. -/
def everyChunkKind : List Chunk :=
  [.push [], .push [0x81], .push [16], .push [0], .op 0x50, .push (List.replicate 80 9),
    .op 0xac, .push (List.replicate 300 3), .op 0x6d]

theorem parse_ofChunks_everyChunkKind :
    (∀ c ∈ everyChunkKind, c.Writable) ∧
      parse (ofChunks everyChunkKind) = .ok everyChunkKind ∧
      ∀ (a b : Bytes) (ca : List Chunk), parse a = .ok ca →
        parse (a ++ b) = ((parse b).map (ca ++ ·)).mapError (· + a.length) :=
  -- the long pushes are checked by their lengths, without spelling their bytes out
  have h : ∀ c ∈ everyChunkKind, c.Writable := by
    simp [everyChunkKind, Chunk.Writable, -List.reduceReplicate]
  ⟨h, parse_ofChunks everyChunkKind h⟩

end Script

end ShipSlap
