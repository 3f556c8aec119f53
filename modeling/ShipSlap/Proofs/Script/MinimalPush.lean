import Mathlib
import ShipSlap.Proofs.Token.PushDrop
/-!
Minimal pushes. A byte string can be pushed in several forms: a one-byte opcode for the empty
string (`OP_0`), for `0x81` (`OP_1NEGATE`) and for the bytes 1 to 16 (`OP_1`..`OP_16`); a
direct push of 1 to 75 bytes, whose opcode is the length; and `OP_PUSHDATA1/2/4`, whose length
follows in one, two or four little-endian bytes. The reader takes every form, minimal or not.

Main statement: `pushData_shortest`, the push the writer emits reads back as its data, and no
script that reads as a single push of the same data is shorter. A script read as one push is
one of the forms, of a length the form and the data fix (`single_push_forms`); for each form the
written push is no longer (`length_pushData_oneByte`, `length_pushData_le_direct`,
`length_pushData_le_prefixed`).
-/
namespace ShipSlap

/-- A number spelled by `n` bytes is below `256 ^ n`. -/
theorem Bytes.toNat_lt (bs : Bytes) : Bytes.toNat bs < 256 ^ bs.length := by
  induction bs using List.reverseRecOn with
  | nil => simp [Bytes.toNat_eq]
  | append_singleton bs b ih =>
    rw [Bytes.toNat_append_byte, List.length_append, List.length_singleton, Nat.pow_succ]
    have hb : b.toNat < 256 := b.toNat_lt
    omega

namespace Script

theorem leValue_lt (bs : Bytes) : leValue bs < 256 ^ bs.length := by
  rw [leValue, ← List.length_reverse]
  exact Bytes.toNat_lt _

/-- The length fields are one, two or four bytes wide. -/
theorem lengthWidth?_eq_some {op : UInt8} {w : Nat} (h : lengthWidth? op = some w) :
    w = 1 ∨ w = 2 ∨ w = 4 := by
  unfold lengthWidth? at h
  split_ifs at h <;> simp_all

/-- A read that puts `c` in front of what the rest reads gives the single chunk `c'` exactly
when the rest reads as nothing. -/
theorem map_cons_eq_ok_singleton {x : Except Nat (List Chunk)} {c c' : Chunk} :
    x.map (c :: ·) = .ok [c'] ↔ x = .ok [] ∧ c = c' := by
  cases x <;> simp [Except.map, and_comm]

/-- A script that is not empty reads as at least one chunk, or fails. -/
theorem parseFrom_cons_ne_ok_nil (pos : Nat) (op : UInt8) (rest : Bytes) :
    parseFrom pos (op :: rest) ≠ .ok [] := by
  -- every branch of a step either fails or puts a chunk in front
  have hcons : ∀ (x : Except Nat (List Chunk)) (c : Chunk), x.map (c :: ·) ≠ .ok [] := by
    intro x c
    cases x <;> simp [Except.map]
  intro h
  rw [parseFrom_cons_eq] at h
  split_ifs at h
  · exact hcons _ _ h
  · exact hcons _ _ h
  · exact hcons _ _ h
  · exact hcons _ _ h
  · cases hw : lengthWidth? op with
    | none =>
      rw [hw] at h
      exact hcons _ _ h
    | some w =>
      rw [hw] at h
      dsimp only at h
      split_ifs at h
      exact hcons _ _ h

/-- Only the empty script reads as no chunks. -/
theorem parseFrom_eq_ok_nil {pos : Nat} {bs : Bytes} : parseFrom pos bs = .ok [] ↔ bs = [] := by
  constructor
  · intro h
    cases bs with
    | nil => rfl
    | cons op rest => exact absurd h (parseFrom_cons_ne_ok_nil pos op rest)
  · rintro rfl
    rw [parseFrom_nil]

/-- **A script read as one push is one of the push forms.** Its first byte is the whole script
and the data is empty, `0x81` or a byte from 1 to 16; or the first byte is a direct push of the
rest, 1 to 75 bytes; or a length field of one, two or four bytes holds the length of the data
that follows it. -/
theorem single_push_forms {pos : Nat} {op : UInt8} {rest d : Bytes}
    (h : parseFrom pos (op :: rest) = .ok [.push d]) :
    (rest = [] ∧ (d = [] ∨ d = [0x81] ∨ ∃ b : UInt8, d = [b] ∧ 1 ≤ b.toNat ∧ b.toNat ≤ 16)) ∨
    (rest = d ∧ 1 ≤ d.length ∧ d.length ≤ 0x4b) ∨
    (∃ w, (w = 1 ∨ w = 2 ∨ w = 4) ∧ rest.length = w + d.length ∧ d.length < 256 ^ w) := by
  rw [parseFrom_cons_eq] at h
  split_ifs at h with h0 h4f hsmall hdirect hfits
  · -- `OP_0`
    obtain ⟨hrest, hd⟩ := Iff.mp map_cons_eq_ok_singleton h
    cases hd
    exact .inl ⟨Iff.mp parseFrom_eq_ok_nil hrest, .inl rfl⟩
  · -- `OP_1NEGATE`
    obtain ⟨hrest, hd⟩ := Iff.mp map_cons_eq_ok_singleton h
    cases hd
    exact .inl ⟨Iff.mp parseFrom_eq_ok_nil hrest, .inr (.inl rfl)⟩
  · -- `OP_1` to `OP_16`
    obtain ⟨hrest, hd⟩ := Iff.mp map_cons_eq_ok_singleton h
    cases hd
    have hb : (op - 0x50).toNat = op.toNat - 0x50 :=
      UInt8.toNat_sub_of_le _ _ (UInt8.le_iff_toNat_le.mpr (by simp; omega))
    exact .inl ⟨Iff.mp parseFrom_eq_ok_nil hrest, .inr (.inr ⟨_, rfl, by omega, by omega⟩)⟩
  · -- a direct push: the rest is the data
    obtain ⟨hrest, hd⟩ := Iff.mp map_cons_eq_ok_singleton h
    cases hd
    have hlen : rest.length = op.toNat := by
      have := List.drop_eq_nil_iff.mp (Iff.mp parseFrom_eq_ok_nil hrest)
      omega
    rw [List.take_of_length_le hlen.le]
    exact .inr (.inl ⟨rfl, by omega, by omega⟩)
  · cases hop : lengthWidth? op with
    | none =>
      -- any other opcode reads as itself, not as a push
      rw [hop] at h
      exact absurd (Iff.mp map_cons_eq_ok_singleton h).2 Chunk.noConfusion
    | some w =>
      rw [hop] at h
      dsimp only at h
      split_ifs at h with hw hn
      obtain ⟨hrest, hd⟩ := Iff.mp map_cons_eq_ok_singleton h
      cases hd
      -- the data is everything after the length field
      have hlen : (rest.drop w).length = leValue (rest.take w) := by
        have := List.drop_eq_nil_iff.mp (Iff.mp parseFrom_eq_ok_nil hrest)
        omega
      have hval := leValue_lt (rest.take w)
      rw [List.length_take_of_le hw] at hval
      refine .inr (.inr ⟨w, lengthWidth?_eq_some hop, ?_, ?_⟩)
      · rw [List.length_take_of_le (by omega)]
        rw [List.length_drop] at hlen
        omega
      · rw [List.length_take_of_le (by omega)]
        exact hval

/-- The empty string, `0x81` and the bytes 1 to 16 are written as one opcode. -/
theorem length_pushData_oneByte {d : Bytes}
    (h : d = [] ∨ d = [0x81] ∨ ∃ b : UInt8, d = [b] ∧ 1 ≤ b.toNat ∧ b.toNat ≤ 16) :
    (pushData d).length = 1 := by
  rcases h with rfl | rfl | ⟨b, rfl, h1, h16⟩
  · rfl
  · decide
  · rw [pushData, if_pos ⟨UInt8.le_iff_toNat_le.mpr (by simpa using h1),
      UInt8.le_iff_toNat_le.mpr (by simpa using h16)⟩]
    rfl

/-- Data that fits a direct push is written in at most one byte more. -/
theorem length_pushData_le_direct {d : Bytes} (h : d.length ≤ 0x4b) :
    (pushData d).length ≤ d.length + 1 := by
  match d with
  | [] => simp [pushData]
  | [b] =>
    rw [pushData]
    split_ifs <;> simp
  | b1 :: b2 :: bs =>
    rw [pushData.eq_3 _ (by simp) (by simp), if_pos h]
    simp

/-- Data whose length fits a length field of one, two or four bytes is written in at most one
byte and that field more. -/
theorem length_pushData_le_prefixed {d : Bytes} {w : Nat} (hw : w = 1 ∨ w = 2 ∨ w = 4)
    (hd : d.length < 256 ^ w) : (pushData d).length ≤ d.length + 1 + w := by
  by_cases hdirect : d.length ≤ 0x4b
  · have := length_pushData_le_direct hdirect
    omega
  obtain ⟨b1, b2, bs, rfl⟩ : ∃ b1 b2 bs, d = b1 :: b2 :: bs := by
    match d with
    | b1 :: b2 :: bs => exact ⟨b1, b2, bs, rfl⟩
    | [] => simp at hdirect
    | [b] => simp at hdirect
  rw [pushData.eq_3 _ (by simp) (by simp), if_neg hdirect]
  generalize b1 :: b2 :: bs = d at *
  -- a length of at least `256 ^ k` does not fit a field of `k` bytes
  have hwide : ∀ k, 256 ^ k ≤ d.length → k < w := fun k hk =>
    (Nat.pow_lt_pow_iff_right (by norm_num)).mp (lt_of_le_of_lt hk hd)
  split_ifs with h1 h2
  · -- `OP_PUSHDATA1`
    simp only [List.length_cons]
    omega
  · -- `OP_PUSHDATA2`, for a length that needs two bytes
    have := hwide 1 (by omega)
    simp
    omega
  · -- `OP_PUSHDATA4`, for a length that needs more than two
    have := hwide 2 (by omega)
    simp
    omega

/-- **The written push is the shortest.** Data shorter than `2 ^ 32` bytes is written as a
script that reads back as the push of that data, and every script that reads as a single push
of the same data is at least as long. -/
theorem pushData_shortest {d : Bytes} (hd : d.length < 2 ^ 32) :
    parse (pushData d) = .ok [.push d] ∧
      ∀ s, parse s = .ok [.push d] → (pushData d).length ≤ s.length := by
  constructor
  · have h := parseFrom_pushData_append 0 hd []
    rw [List.append_nil] at h
    rw [parse_eq, h, parseFrom_nil]
    rfl
  · intro s hs
    cases s with
    | nil => exact absurd hs (by simp [parse, parseFrom])
    | cons op rest =>
      rcases single_push_forms hs with ⟨rfl, hone⟩ | ⟨rfl, -, hdirect⟩ | ⟨w, hw, hlen, hlt⟩
      · simp [length_pushData_oneByte hone]
      · simpa using length_pushData_le_direct hdirect
      · have := length_pushData_le_prefixed hw hlt
        simp only [List.length_cons]
        omega

example : pushData [0] = [1, 0] ∧ pushData [16] = [0x60] ∧ pushData [17] = [1, 17] ∧
    pushData [0x81] = [0x4f] := by
  decide

/-- Seventy-six bytes, one past the longest direct push, written with a two-byte length field:
it reads as their push, and the written `OP_PUSHDATA1` form is shorter. -/
def wideForm : Bytes := 0x4d :: ([76, 0] ++ List.replicate 76 7)

theorem pushData_shortest_wideForm :
    (List.replicate 76 (7 : UInt8)).length < 2 ^ 32 ∧
      parse (pushData (List.replicate 76 7)) = .ok [.push (List.replicate 76 7)] ∧
      parse wideForm = .ok [.push (List.replicate 76 7)] ∧
      (pushData (List.replicate 76 7)).length ≤ wideForm.length :=
  have hd : (List.replicate 76 (7 : UInt8)).length < 2 ^ 32 := by simp
  have hwide : parse wideForm = .ok [.push (List.replicate 76 7)] := by
    rw [wideForm, parse, ← List.append_nil (List.replicate 76 7), ← List.append_assoc,
      parseFrom_pushLength 0 0x4d [76, 0] _ [] (by decide) rfl (by decide), parseFrom]
    rfl
  ⟨hd, (pushData_shortest hd).1, hwide, (pushData_shortest hd).2 wideForm hwide⟩

end Script

end ShipSlap
