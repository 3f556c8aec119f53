import Mathlib
import ShipSlap.Token.PushDrop
import ShipSlap.Proofs.Key.Encoding
/-!
Writing and reading PushDrop tokens. Main statement: `PushDrop.decode_written_both_layouts`, a
token written with non-empty fields reads back with the same fields and the key it is locked to,
and so does the same token with its lock moved to the end, the other layout the reader accepts.

The reader sees a written script as the chunks the writer meant: every push is written in its
shortest form and read back as the same data, from any offset and whatever follows it
(`parseFrom_pushData_append`); `OP_CHECKSIG` and the drops read as themselves; and the drops
remove exactly the fields. Both layouts then split into the same lock and the same body
(`splitLock_append_lock` for the lock last), after which reading is one computation
(`decode_of_splitLock`).
-/
namespace ShipSlap.Script

theorem parse_eq (script : Bytes) : parse script = parseFrom 0 script := rfl

theorem parseFrom_nil (pos : Nat) : parseFrom pos [] = .ok [] :=
  parseFrom.eq_1 pos

/-- One step of reading, with the opcode's tests on its value. -/
theorem parseFrom_cons_eq (pos : Nat) (op : UInt8) (rest : Bytes) : parseFrom pos (op :: rest) =
    if op.toNat = 0 then (parseFrom (pos + 1) rest).map (.push [] :: ·)
    else if op.toNat = 0x4f then (parseFrom (pos + 1) rest).map (.push [0x81] :: ·)
    else if 0x51 ≤ op.toNat ∧ op.toNat ≤ 0x60 then
      (parseFrom (pos + 1) rest).map (.push [op - 0x50] :: ·)
    else if 1 ≤ op.toNat ∧ op.toNat ≤ 0x4b then
      if op.toNat ≤ rest.length then
        (parseFrom (pos + 1 + op.toNat) (rest.drop op.toNat)).map (.push (rest.take op.toNat) :: ·)
      else .error pos
    else match lengthWidth? op with
      | some w =>
        if w ≤ rest.length then
          if leValue (rest.take w) ≤ (rest.drop w).length then
            (parseFrom (pos + 1 + w + leValue (rest.take w))
                ((rest.drop w).drop (leValue (rest.take w)))).map
              (.push ((rest.drop w).take (leValue (rest.take w))) :: ·)
          else .error pos
        else .error pos
      | none => (parseFrom (pos + 1) rest).map (.op op :: ·) := by
  rw [parseFrom]
  -- each side matches on `lengthWidth? op` with a matcher of its own, equal only once unfolded;
  -- with the width fixed both reduce, and the tests then read on values
  cases lengthWidth? op <;>
    simp only [← UInt8.toNat_inj, UInt8.le_iff_toNat_le, UInt8.reduceToNat]

/-- A number below `256 ^ w` survives `w` bytes written little-endian. -/
theorem leValue_reverse_ofNat (w n : Nat) (h : n < 256 ^ w) :
    leValue (Bytes.ofNat w n).reverse = n := by
  rw [leValue, List.reverse_reverse, Bytes.toNat_ofNat, Nat.pow_eq, Nat.mod_eq_of_lt h]

/-- A push whose length is written in `w` little-endian bytes after the opcode. -/
theorem parseFrom_pushLength (pos : Nat) (op : UInt8) (len d rest : Bytes)
    (hop : 0x4c ≤ op.toNat ∧ op.toNat ≤ 0x4e) (hw : lengthWidth? op = some len.length)
    (hval : leValue len = d.length) :
    parseFrom pos (op :: (len ++ d ++ rest)) =
      (parseFrom (pos + 1 + len.length + d.length) rest).map (.push d :: ·) := by
  rw [parseFrom_cons_eq, if_neg (by omega), if_neg (by omega), if_neg (by omega),
    if_neg (by omega), hw]
  have htake : (len ++ d ++ rest).take len.length = len := by
    rw [List.append_assoc, List.take_left' rfl]
  have hdrop : (len ++ d ++ rest).drop len.length = d ++ rest := by
    rw [List.append_assoc, List.drop_left' rfl]
  dsimp only
  rw [if_pos (by simp), htake, hdrop, hval, if_pos (by simp), List.take_left' rfl,
    List.drop_left' rfl]

/-- **Every written push reads back as its data**, at any offset and whatever follows it. -/
theorem parseFrom_pushData_append (pos : Nat) {d : Bytes} (hd : d.length < 2 ^ 32) (rest : Bytes) :
    parseFrom pos (pushData d ++ rest) =
      (parseFrom (pos + (pushData d).length) rest).map (.push d :: ·) := by
  match d with
  | [] => rw [pushData, List.cons_append, List.nil_append, parseFrom_cons_eq]; rfl
  | [b] =>
    rw [pushData]
    split_ifs with h1 h2
    · -- `OP_1` to `OP_16`
      simp only [UInt8.le_iff_toNat_le, UInt8.reduceToNat] at h1
      have hb : (0x50 + b).toNat = 0x50 + b.toNat := by
        rw [UInt8.toNat_add]; simp; omega
      rw [List.cons_append, List.nil_append, parseFrom_cons_eq, hb, if_neg (by omega),
        if_neg (by omega), if_pos (by omega)]
      simp
    · -- `OP_1NEGATE`
      subst h2
      rw [List.cons_append, List.nil_append, parseFrom_cons_eq]
      rfl
    · -- a direct push of one byte
      rw [List.cons_append, List.cons_append, List.nil_append, parseFrom_cons_eq]
      rfl
  | b1 :: b2 :: bs =>
    have h2 : 2 ≤ (b1 :: b2 :: bs).length := by simp
    rw [pushData.eq_3 _ (by simp) (by simp)]
    generalize b1 :: b2 :: bs = d at *
    split_ifs with h1 h2 h3
    · -- a direct push
      have hb : (UInt8.ofNat d.length).toNat = d.length :=
        UInt8.toNat_ofNat_of_lt' (show _ < 256 by omega)
      rw [List.cons_append, parseFrom_cons_eq, hb, if_neg (by omega), if_neg (by omega),
        if_neg (by omega), if_pos (by omega), if_pos (by simp),
        List.take_left' rfl, List.drop_left' rfl, List.length_cons, Nat.add_assoc,
        Nat.add_comm 1 d.length]
    · -- `OP_PUSHDATA1`
      have hb : (UInt8.ofNat d.length).toNat = d.length :=
        UInt8.toNat_ofNat_of_lt' (show _ < 256 by omega)
      show parseFrom pos (0x4c :: ([UInt8.ofNat d.length] ++ d ++ rest)) = _
      rw [parseFrom_pushLength pos 0x4c _ d rest (by decide) rfl
        (by simp [leValue, Bytes.toNat, hb])]
      simp only [List.length_cons, List.length_nil]
      congr 2
      omega
    · -- `OP_PUSHDATA2`
      show parseFrom pos (0x4d :: ((Bytes.ofNat 2 d.length).reverse ++ d ++ rest)) = _
      rw [parseFrom_pushLength pos 0x4d _ d rest (by decide) (by simp; rfl)
        (leValue_reverse_ofNat 2 _ (by omega))]
      simp only [List.length_cons, List.length_append, List.length_reverse, Bytes.length_ofNat]
      congr 2
      omega
    · -- `OP_PUSHDATA4`
      show parseFrom pos (0x4e :: ((Bytes.ofNat 4 d.length).reverse ++ d ++ rest)) = _
      rw [parseFrom_pushLength pos 0x4e _ d rest (by decide) (by simp; rfl)
        (leValue_reverse_ofNat 4 _ (by omega))]
      simp only [List.length_cons, List.length_append, List.length_reverse, Bytes.length_ofNat]
      congr 2
      omega

/-- The pushes of a list of fields read back as the fields. -/
theorem parseFrom_flatMap_pushData (pos : Nat) (fields : List Bytes)
    (h : ∀ f ∈ fields, f.length < 2 ^ 32) (rest : Bytes) :
    parseFrom pos (fields.flatMap pushData ++ rest) =
      (parseFrom (pos + (fields.flatMap pushData).length) rest).map (fields.map .push ++ ·) := by
  induction fields generalizing pos with
  | nil =>
    simp only [List.flatMap_nil, List.nil_append, List.length_nil, Nat.add_zero, List.map_nil]
    cases parseFrom pos rest <;> rfl
  | cons f fields ih =>
    rw [List.flatMap_cons, List.append_assoc, parseFrom_pushData_append pos (h f (by simp)),
      ih _ (fun g hg => h g (by simp [hg])), List.length_append, Nat.add_assoc]
    cases parseFrom _ rest <;> rfl

/-- An opcode that pushes nothing reads as itself. -/
theorem parseFrom_op_cons (pos : Nat) {op : UInt8} (hop : 0x60 < op.toNat)
    (hw : lengthWidth? op = none) (rest : Bytes) :
    parseFrom pos (op :: rest) = (parseFrom (pos + 1) rest).map (.op op :: ·) := by
  rw [parseFrom_cons_eq, if_neg (by omega), if_neg (by omega), if_neg (by omega),
    if_neg (by omega), hw]

/-- Opcodes that push nothing read as themselves. -/
theorem parseFrom_ops (pos : Nat) (ops : Bytes)
    (h : ∀ op ∈ ops, 0x60 < op.toNat ∧ lengthWidth? op = none) :
    parseFrom pos ops = .ok (ops.map .op) := by
  induction ops generalizing pos with
  | nil => rw [parseFrom_nil]; rfl
  | cons op ops ih =>
    obtain ⟨hop, hw⟩ := h op (by simp)
    rw [parseFrom_op_cons pos hop hw, ih _ (fun o ho => h o (by simp [ho]))]
    rfl

/-- Opcodes that push nothing read as themselves, whatever follows them. -/
theorem parseFrom_ops_append (pos : Nat) (ops rest : Bytes)
    (h : ∀ op ∈ ops, 0x60 < op.toNat ∧ lengthWidth? op = none) :
    parseFrom pos (ops ++ rest) = (parseFrom (pos + ops.length) rest).map (ops.map .op ++ ·) := by
  induction ops generalizing pos with
  | nil =>
    simp only [List.nil_append, List.length_nil, Nat.add_zero, List.map_nil]
    cases parseFrom pos rest <;> rfl
  | cons op ops ih =>
    obtain ⟨hop, hw⟩ := h op (by simp)
    rw [List.cons_append, parseFrom_op_cons pos hop hw, ih _ (fun o ho => h o (by simp [ho])),
      List.length_cons, Nat.add_assoc, Nat.add_comm 1]
    cases parseFrom _ rest <;> rfl

/-- The drops are `OP_2DROP` and `OP_DROP`. -/
theorem mem_pushDrops {n : Nat} {op : UInt8} (h : op ∈ pushDrops n) :
    op = 0x6d ∨ op = 0x75 := by
  simp only [pushDrops, List.mem_append, List.mem_replicate] at h
  rcases h with ⟨-, rfl⟩ | h
  · exact .inl rfl
  · split at h
    · exact .inr (List.mem_singleton.mp h)
    · cases h

/-- Drops push nothing. -/
theorem plain_of_mem_pushDrops {n : Nat} {op : UInt8} (h : op ∈ pushDrops n) :
    0x60 < op.toNat ∧ lengthWidth? op = none := by
  rcases mem_pushDrops h with rfl | rfl <;> decide

end ShipSlap.Script

namespace ShipSlap.PushDrop

open Script

/-- The pushes in front of the drops are the fields. -/
theorem leadingPushes_map_push_append (fields : List Bytes) (ops : Bytes) :
    leadingPushes (fields.map .push ++ ops.map .op) = fields := by
  induction fields with
  | nil => cases ops <;> rfl
  | cons f fields ih => simp [leadingPushes, ih]

/-- Each `OP_2DROP` removes two items. -/
theorem countDrops_replicate_append (k : Nat) (rest : List Chunk) :
    countDrops ((List.replicate k (0x6d : UInt8)).map .op ++ rest) =
      (countDrops rest).map (2 * k + ·) := by
  induction k with
  | zero =>
    simp only [List.replicate_zero, List.map_nil, List.nil_append, Nat.mul_zero, Nat.zero_add]
    cases countDrops rest <;> rfl
  | succ k ih =>
    rw [List.replicate_succ, List.map_cons, List.cons_append, countDrops]
    show (countDrops _).map (2 + ·) = _
    rw [ih]
    cases countDrops rest with
    | error e => rfl
    | ok m =>
      show Except.ok (2 + (2 * k + m)) = Except.ok (2 * (k + 1) + m)
      rw [show 2 + (2 * k + m) = 2 * (k + 1) + m by omega]

/-- The drops written for `n` fields remove `n` items. -/
theorem countDrops_pushDrops (n : Nat) : countDrops ((pushDrops n).map .op) = .ok n := by
  rw [pushDrops, List.map_append, countDrops_replicate_append]
  split
  · show Except.ok (2 * (n / 2) + 1) = Except.ok n
    rw [show 2 * (n / 2) + 1 = n by omega]
  · show Except.ok (2 * (n / 2) + 0) = Except.ok n
    rw [show 2 * (n / 2) + 0 = n by omega]

/-- What writing a token checks, and what it writes. -/
theorem encode_eq_ok {fields : List Bytes} {key : PublicKey} {script : Bytes} :
    encode fields key = .ok script ↔ fields ≠ [] ∧ (∀ f ∈ fields, f.length < 2 ^ 32) ∧
      script = Script.pushData key.toBytes ++ [Script.opCheckSig] ++
        fields.flatMap Script.pushData ++ Script.pushDrops fields.length := by
  unfold encode
  split
  · rename_i hnil
    simp only [reduceCtorEq, false_iff, not_and]
    intro hne
    exact absurd (List.isEmpty_iff.mp hnil) hne
  · rename_i hnil
    have hne : fields ≠ [] := fun h => by simp [h] at hnil
    split
    · rename_i f hf
      have hbig := List.find?_some hf
      have hmem := List.mem_of_find?_eq_some hf
      simp only [reduceCtorEq, false_iff, not_and]
      intro _ hsmall
      have := hsmall f hmem
      simp only [decide_eq_true_eq] at hbig
      rw [Nat.pow_eq] at hbig
      omega
    · rename_i hnone
      have hsmall : ∀ f ∈ fields, f.length < 2 ^ 32 := by
        intro f hf
        have := List.find?_eq_none.mp hnone f hf
        simp only [decide_eq_true_eq, Nat.not_le] at this
        rwa [Nat.pow_eq] at this
      simp only [Except.ok.injEq]
      exact ⟨fun h => ⟨hne, hsmall, h.symm⟩, fun h => h.2.2.symm⟩

/-- A compressed key fits a push. -/
theorem length_toBytes_lt (key : PublicKey) : key.toBytes.length < 2 ^ 32 := by
  unfold PublicKey.toBytes Secp256k1.Point.toCompressed
  split <;> simp

/-- In the lock-last layout the lock is the second chunk from the end, once neither the body
nor the lock is an `OP_CHECKSIG` that the lock-first test would take. -/
theorem splitLock_append_lock {body : List Chunk} {lock : Chunk}
    (hbody : ∀ c ∈ body, c ≠ .op opCheckSig) (hlock : lock ≠ .op opCheckSig) :
    splitLock (body ++ [lock, .op opCheckSig]) = .ok (lock, body) := by
  match body with
  | [] => rfl
  | c :: rest =>
    -- the second chunk is the body's second or the lock, neither of them `OP_CHECKSIG`
    obtain ⟨d, rest', hd⟩ : ∃ d rest', rest ++ [lock, .op opCheckSig] = d :: rest' := by
      cases rest <;> exact ⟨_, _, rfl⟩
    have hd' : d ≠ .op opCheckSig := by
      cases rest with
      | nil => cases hd; exact hlock
      | cons e es => cases hd; exact hbody d (by simp)
    have hlen : (c :: (rest ++ [lock, .op opCheckSig])).length - 2 = (c :: rest).length := by
      simp
    have hlast : (c :: (rest ++ [lock, .op opCheckSig])).getLast? = some (.op opCheckSig) := by
      rw [← List.cons_append, List.getLast?_append]
      simp
    rw [List.cons_append, hd, splitLock, if_neg hd', ← hd, hlast, if_pos rfl, hlen,
      ← List.cons_append]
    simp [List.getD_eq_getElem?_getD]

/-- Reading a script that splits into a lock pushing `key` and a body of pushes of `fields`
followed by their drops: the fields, locked to `key` as far as it reads as a key. -/
theorem decode_of_splitLock {script : Bytes} {chunks : List Chunk} {fields : List Bytes}
    {key : Bytes} (hne : fields ≠ []) (hparse : Script.parse script = .ok chunks)
    (hsplit : splitLock chunks =
      .ok (.push key, fields.map .push ++ (pushDrops fields.length).map .op)) :
    decode script =
      ((PublicKey.ofBytes key).mapError fun _ => .invalidLockingKey).map (⟨·, fields⟩) := by
  have hdrops : (fields.map Chunk.push ++ (pushDrops fields.length).map Chunk.op).drop
      fields.length = (pushDrops fields.length).map Chunk.op := by
    rw [List.drop_left' (by simp)]
  have hempty : fields.isEmpty = false := List.isEmpty_eq_false_iff.mpr hne
  unfold decode
  simp only [hparse, hsplit, bind, Except.bind, Except.mapError, Chunk.data?,
    leadingPushes_map_push_append, hdrops, countDrops_pushDrops, hempty]
  cases PublicKey.ofBytes key <;> simp [pure, Except.pure, Except.map]

/-- The chunks of the lock-first layout: the lock, then the fields and their drops. -/
theorem parse_lockFirst {fields : List Bytes} (hsmall : ∀ f ∈ fields, f.length < 2 ^ 32)
    {key : Bytes} (hkey : key.length < 2 ^ 32) :
    Script.parse (pushData key ++ [opCheckSig] ++ fields.flatMap pushData ++
        pushDrops fields.length) =
      .ok (.push key :: .op opCheckSig ::
        (fields.map .push ++ (pushDrops fields.length).map .op)) := by
  rw [Script.parse_eq, List.append_assoc, List.append_assoc, List.singleton_append,
    parseFrom_pushData_append 0 hkey, parseFrom_op_cons _ (by decide) rfl,
    parseFrom_flatMap_pushData _ fields hsmall,
    parseFrom_ops _ _ (fun _ => plain_of_mem_pushDrops)]
  rfl

/-- The chunks of the lock-last layout: the fields, their drops, then the lock. -/
theorem parse_lockLast {fields : List Bytes} (hsmall : ∀ f ∈ fields, f.length < 2 ^ 32)
    {key : Bytes} (hkey : key.length < 2 ^ 32) :
    Script.parse (fields.flatMap pushData ++ pushDrops fields.length ++ pushData key ++
        [opCheckSig]) =
      .ok (fields.map .push ++ (pushDrops fields.length).map .op ++
        [.push key, .op opCheckSig]) := by
  rw [Script.parse_eq, List.append_assoc, List.append_assoc,
    parseFrom_flatMap_pushData _ fields hsmall,
    parseFrom_ops_append _ _ _ (fun _ => plain_of_mem_pushDrops),
    parseFrom_pushData_append _ hkey, parseFrom_op_cons _ (by decide) rfl]
  simp [parseFrom_nil, Except.map]

/-- **Reading a written token gives back its fields**, and the locking key as far as its
compressed encoding reads back. -/
theorem decode_encode {fields : List Bytes} {key : PublicKey} {script : Bytes}
    (h : encode fields key = .ok script) :
    decode script =
      ((PublicKey.ofBytes key.toBytes).mapError fun _ => .invalidLockingKey).map
        (⟨·, fields⟩) := by
  obtain ⟨hne, hsmall, rfl⟩ := Iff.mp encode_eq_ok h
  exact decode_of_splitLock hne (parse_lockFirst hsmall (length_toBytes_lt key)) rfl

/-- **Reading undoes writing, in both layouts.** A token written with non-empty fields, each
shorter than `2 ^ 32` bytes, and a key that reads back from its compressed encoding reads back
as that key and those fields; so does the same token with its lock moved to the end. -/
theorem decode_written_both_layouts {fields : List Bytes} {key : PublicKey} (hne : fields ≠ [])
    (hsmall : ∀ f ∈ fields, f.length < 2 ^ 32) (hkey : PublicKey.ofBytes key.toBytes = .ok key) :
    (encode fields key).bind decode = .ok ⟨key, fields⟩ ∧
      decode (fields.flatMap pushData ++ pushDrops fields.length ++ pushData key.toBytes ++
        [opCheckSig]) = .ok ⟨key, fields⟩ := by
  have hread :
      ((PublicKey.ofBytes key.toBytes).mapError fun _ => TokenError.invalidLockingKey).map
        (PushDropToken.mk · fields) = .ok ⟨key, fields⟩ := by
    rw [hkey]
    rfl
  constructor
  · -- the lock first, as written
    have hscript : encode fields key = .ok (pushData key.toBytes ++ [opCheckSig] ++
        fields.flatMap pushData ++ pushDrops fields.length) :=
      Iff.mpr encode_eq_ok ⟨hne, hsmall, rfl⟩
    rw [hscript]
    exact (decode_encode hscript).trans hread
  · -- the lock last: no chunk before the lock is an `OP_CHECKSIG`
    have hbody : ∀ c ∈ fields.map Chunk.push ++ (pushDrops fields.length).map Chunk.op,
        c ≠ .op opCheckSig := by
      intro c hc
      simp only [List.mem_append, List.mem_map] at hc
      rcases hc with ⟨f, -, rfl⟩ | ⟨op, hop, rfl⟩
      · exact Chunk.noConfusion
      · rcases mem_pushDrops hop with rfl | rfl <;> decide
    exact (decode_of_splitLock hne (parse_lockLast hsmall (length_toBytes_lt key))
      (splitLock_append_lock hbody Chunk.noConfusion)).trans hread

/-- Fields crossing the push forms: empty, the byte `0x81`, a byte of 1 to 16, the byte 0, and
76 bytes, one past the longest direct push. -/
def pushFormFields : List Bytes :=
  [[], [0x81], [5], [0], Bytes.ofString "SLAP", List.replicate 76 7]

theorem decode_written_both_layouts_pushForms :
    pushFormFields ≠ [] ∧ (∀ f ∈ pushFormFields, f.length < 2 ^ 32) ∧
      PublicKey.ofBytes (⟨Secp256k1.Point.base⟩ : PublicKey).toBytes =
        .ok ⟨Secp256k1.Point.base⟩ ∧
      ((encode pushFormFields ⟨Secp256k1.Point.base⟩).bind decode =
          .ok ⟨⟨Secp256k1.Point.base⟩, pushFormFields⟩ ∧
        decode (pushFormFields.flatMap pushData ++ pushDrops pushFormFields.length ++
          pushData (⟨Secp256k1.Point.base⟩ : PublicKey).toBytes ++ [opCheckSig]) =
          .ok ⟨⟨Secp256k1.Point.base⟩, pushFormFields⟩) :=
  have hne : pushFormFields ≠ [] := by decide
  have hsmall : ∀ f ∈ pushFormFields, f.length < 2 ^ 32 := by
    simp only [pushFormFields, List.mem_cons, List.not_mem_nil, or_false, forall_eq_or_imp,
      forall_eq, Bytes.length_ofString]
    decide
  have hkey : PublicKey.ofBytes (⟨Secp256k1.Point.base⟩ : PublicKey).toBytes =
      .ok ⟨Secp256k1.Point.base⟩ :=
    PublicKey.ofBytes_toBytes_of_onCurve (by decide)
  ⟨hne, hsmall, hkey, decode_written_both_layouts hne hsmall hkey⟩

end ShipSlap.PushDrop
