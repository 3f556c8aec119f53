import Mathlib.Data.List.Basic
import ShipSlap.Hash.Hmac
/-!
SHA-256 with the message schedule kept as a window of the sixteen latest words. A schedule word
reads the words 2, 7, 15 and 16 places back, so the sixteen latest words are all the schedule
needs; `extend` reads them by position from the whole array instead. Main statement:
`sha256_eq_sha256Window`, the two give every message the same digest. The kernel evaluates the
window form several times faster, and concrete digests and HMACs are computed through it.

1. `extend_toList`: the array schedule is the window schedule, for an array of at least sixteen
   words (induction on the words added, one push a step).
2. `compress_eq_compressWindow`: so the compression functions agree on a 64-byte block.
3. `length_of_mem_blocks_pad`: a padded message splits into 64-byte blocks only.
-/
namespace ShipSlap

namespace Sha256

/-- The schedule words after a window of sixteen words, oldest first: each new word mixes the
words 2, 7, 15 and 16 places back and moves the window on by one. -/
def windowSchedule : Nat → List UInt32 → List UInt32
  | n + 1, [w0, w1, w2, w3, w4, w5, w6, w7, w8, w9, w10, w11, w12, w13, w14, w15] =>
    let w16 := sigma1 w14 + w9 + sigma0 w1 + w0
    w16 :: windowSchedule n [w1, w2, w3, w4, w5, w6, w7, w8, w9, w10, w11, w12, w13, w14, w15, w16]
  | _, _ => []

/-- `compress` with the window schedule. -/
def compressWindow (s : State) (block : Bytes) : State :=
  let w := words block ++ windowSchedule 48 (words block)
  let r := (roundConstants.zip w).foldl round s
  ⟨s.a + r.a, s.b + r.b, s.c + r.c, s.d + r.d, s.e + r.e, s.f + r.f, s.g + r.g, s.h + r.h⟩

/-- The schedule word after a window of sixteen. -/
def nextWord (w : List UInt32) : UInt32 :=
  sigma1 (w.getD 14 0) + w.getD 9 0 + sigma0 (w.getD 1 0) + w.getD 0 0

theorem windowSchedule_succ (n : Nat) : ∀ w : List UInt32, w.length = 16 →
    windowSchedule (n + 1) w = nextWord w :: windowSchedule n (w.tail ++ [nextWord w])
  | [_, _, _, _, _, _, _, _, _, _, _, _, _, _, _, _], _ => rfl

/-- Extending an array of at least sixteen words appends the window schedule of its last
sixteen. -/
theorem extend_toList (n : Nat) (w : Array UInt32) (hw : 16 ≤ w.size) :
    (extend w n).toList = w.toList ++ windowSchedule n (w.toList.drop (w.size - 16)) := by
  induction n generalizing w with
  | zero => simp [extend, windowSchedule]
  | succ n ih =>
    have hlen : (w.toList.drop (w.size - 16)).length = 16 := by
      simp only [List.length_drop, Array.length_toList]
      omega
    -- the window reads the words 16, 15, 7 and 2 places back
    have hnext : nextWord (w.toList.drop (w.size - 16)) =
        sigma1 (w.getD (w.size - 2) 0) + w.getD (w.size - 7) 0 +
          sigma0 (w.getD (w.size - 15) 0) + w.getD (w.size - 16) 0 := by
      simp only [nextWord, List.getD_eq_getElem?_getD, List.getElem?_drop, Array.getD_eq_getD_getElem?,
        Array.getElem?_toList]
      rw [show w.size - 16 + 14 = w.size - 2 by omega, show w.size - 16 + 9 = w.size - 7 by omega,
        show w.size - 16 + 1 = w.size - 15 by omega, Nat.add_zero]
    have hwindow : (w.toList ++ [nextWord (w.toList.drop (w.size - 16))]).drop (w.size + 1 - 16) =
        (w.toList.drop (w.size - 16)).tail ++ [nextWord (w.toList.drop (w.size - 16))] := by
      rw [List.tail_drop, List.drop_append_of_le_length (by simp only [Array.length_toList]; omega),
        show w.size + 1 - 16 = w.size - 16 + 1 by omega]
    rw [extend, ih _ (by simp; omega), windowSchedule_succ n _ hlen, ← hnext, Array.toList_push,
      Array.size_push, hwindow, List.append_assoc, List.singleton_append]

theorem length_words : ∀ bs : Bytes, (words bs).length = bs.length / 4
  | _ :: _ :: _ :: _ :: rest => by
    simp only [words, List.length_cons, length_words rest]
    omega
  | [] | [_] | [_, _] | [_, _, _] => by simp [words]

/-- On a 64-byte block the two compression functions agree. -/
theorem compress_eq_compressWindow (s : State) {block : Bytes} (h : block.length = 64) :
    compress s block = compressWindow s block := by
  have hw : (words block).length = 16 := by rw [length_words, h]
  simp only [compress, compressWindow]
  rw [extend_toList 48 _ (by simp [hw]), List.toList_toArray, List.size_toArray, hw, Nat.sub_self,
    List.drop_zero]

theorem length_pad (msg : Bytes) :
    (pad msg).length = msg.length + 9 + (119 - msg.length % 64) % 64 := by
  simp only [pad, List.length_append, List.length_singleton, List.length_replicate,
    Bytes.length_ofNat]
  omega

/-- A byte string of a positive multiple of 64 bytes splits into 64-byte blocks. -/
theorem length_of_mem_blocks {bs b : Bytes} (h : bs.length % 64 = 0) (hpos : 0 < bs.length)
    (hb : b ∈ blocks bs) : b.length = 64 := by
  induction bs using blocks.induct with
  | case1 bs hle =>
    rw [blocks, if_pos hle, List.mem_singleton] at hb
    subst hb
    omega
  | case2 bs hgt ih =>
    rw [blocks, if_neg hgt, List.mem_cons] at hb
    rcases hb with rfl | hb
    · simp only [List.length_take]
      omega
    · exact ih (by simp only [List.length_drop]; omega) (by simp only [List.length_drop]; omega) hb

theorem length_of_mem_blocks_pad {msg b : Bytes} (hb : b ∈ blocks (pad msg)) : b.length = 64 :=
  length_of_mem_blocks (by rw [length_pad]; omega) (by rw [length_pad]; omega) hb

end Sha256

/-- SHA-256 with the window schedule. -/
def sha256Window (msg : Bytes) : Bytes :=
  ((Sha256.blocks (Sha256.pad msg)).foldl Sha256.compressWindow Sha256.State.initial).digest

/-- The two forms of SHA-256 give every message the same digest. -/
theorem sha256_eq_sha256Window : sha256 = sha256Window := by
  funext msg
  unfold sha256 sha256Window
  rw [List.foldl_ext _ _ _ fun s b hb =>
    Sha256.compress_eq_compressWindow s (Sha256.length_of_mem_blocks_pad hb)]

end ShipSlap
