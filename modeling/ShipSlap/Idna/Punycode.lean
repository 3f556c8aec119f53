/-!
Punycode (RFC 3492), the bootstring encoding that writes a label of any characters with
letters, digits and hyphens only. The ASCII characters of a label are written first, then a
hyphen, then each other character as a variable-length base-36 delta from the decoder's last
position, in increasing order of code point.

Decoding counts in 32-bit words and fails as soon as a count would leave them. Both directions
refuse very long labels, far beyond what a domain name may hold, so that their work stays
bounded.
-/
namespace ShipSlap.Idna.Punycode

/-- The bound of the 32-bit counters. -/
def wordLimit : Nat := Nat.pow 2 32

/-- The most characters a label to encode may have. -/
def encodeLimit : Nat := 1000

/-- The most characters a text to decode may have. -/
def decodeLimit : Nat := 2000

/-- The threshold of the digit at position `k`: between 1 and 26, following the bias. -/
def threshold (k bias : Nat) : Nat :=
  if k ≤ bias then 1 else if bias + 26 ≤ k then 26 else k - bias

theorem threshold_pos (k bias : Nat) : 1 ≤ threshold k bias := by
  unfold threshold; split <;> (try split) <;> omega

theorem threshold_le (k bias : Nat) : threshold k bias ≤ 26 := by
  unfold threshold; split <;> (try split) <;> omega

/-- The character of a digit: `a` to `z` for 0 to 25, `0` to `9` for 26 to 35. -/
def digitChar (d : Nat) : Char :=
  if d < 26 then Char.ofNat (97 + d) else Char.ofNat (22 + d)

/-- The value of a digit character; uppercase letters count as lowercase. -/
def digitValue? (c : Char) : Option Nat :=
  if 'a' ≤ c ∧ c ≤ 'z' then some (c.toNat - 97)
  else if 'A' ≤ c ∧ c ≤ 'Z' then some (c.toNat - 65)
  else if '0' ≤ c ∧ c ≤ '9' then some (c.toNat - 22)
  else none

/-- Divides a delta by 35 until it is at most 455, counting 36 for each division. -/
def scaleDown (delta k : Nat) : Nat × Nat :=
  if 455 < delta then scaleDown (delta / 35) (k + 36) else (delta, k)
termination_by delta
decreasing_by exact Nat.div_lt_self (by omega) (by omega)

/-- The bias after a delta, from the delta, the number of characters so far, and whether
it is the first delta. -/
def adapt (delta numPoints : Nat) (first : Bool) : Nat :=
  let d := if first then delta / 700 else delta / 2
  let (d, k) := scaleDown (d + d / numPoints) 0
  k + 36 * d / (d + 38)

/-- Reads one variable-length integer, least significant digit first, and adds it to `i`
with the weights starting at `w`; gives the new `i` and the rest of the input. Fails on a
character that is no digit, on an input that ends inside the integer, and on a count that
reaches `wordLimit`. -/
def readDelta (bias : Nat) : List Char → Nat → Nat → Nat → Option (Nat × List Char)
  | [], _, _, _ => none
  | c :: rest, k, w, i =>
    match digitValue? c with
    | none => none
    | some d =>
      if wordLimit ≤ d * w ∨ wordLimit ≤ i + d * w then none
      else if d < threshold k bias then some (i + d * w, rest)
      else if wordLimit ≤ w * (36 - threshold k bias) then none
      else readDelta bias rest (k + 36) (w * (36 - threshold k bias)) (i + d * w)

theorem readDelta_length (bias : Nat) :
    ∀ (l : List Char) (k w i : Nat) (r : Nat × List Char),
      readDelta bias l k w i = some r → r.2.length < l.length
  | [], _, _, _, _, h => by simp [readDelta] at h
  | c :: rest, k, w, i, r, h => by
    rw [readDelta] at h
    split at h
    · simp at h
    · split at h
      · simp at h
      · split at h
        · rw [← Option.some.inj h]; simp
        · split at h
          · simp at h
          · have := readDelta_length bias rest _ _ _ r h
            simp; omega

/-- Inserts the characters that the deltas of the input describe into `out`, the decoder
being at code point `n` and position `i` with bias `bias`. -/
def insertAll (bias n i : Nat) (out : List Char) : List Char → Option (List Char)
  | [] => some out
  | c :: rest =>
    match _hread : readDelta bias (c :: rest) 36 1 i with
    | none => none
    | some (i', remaining) =>
      let count := out.length + 1
      let n' := n + i' / count
      if n'.isValidChar then
        insertAll (adapt (i' - i) count (i == 0)) n' (i' % count + 1)
          (out.insertIdx (i' % count) (Char.ofNat n')) remaining
      else none
termination_by l => l.length
decreasing_by
  have := readDelta_length bias (c :: rest) 36 1 i (i', remaining) _hread
  simpa using this

/-- A label cut at its last hyphen: what stands before it and what follows; with no hyphen
everything follows. -/
def splitAtLastHyphen (label : List Char) : List Char × List Char :=
  match label.reverse.span (· != '-') with
  | (after, []) => ([], after.reverse)
  | (after, _ :: before) => (before.reverse, after.reverse)

/-- Decodes a label written in Punycode (without its `xn--` prefix); a text of more than
`decodeLimit` characters is refused. -/
def decode? (label : List Char) : Option (List Char) :=
  let (basic, deltas) := splitAtLastHyphen label
  if decodeLimit < label.length || basic.any (fun c => 128 ≤ c.toNat) then none
  else insertAll 72 128 0 basic deltas

/-- The digits of one delta `q`, least significant first, starting at position `k`. -/
def writeDelta (bias k q : Nat) : List Char :=
  let t := threshold k bias
  if q < t then [digitChar q]
  else digitChar (t + (q - t) % (36 - t)) :: writeDelta bias (k + 36) ((q - t) / (36 - t))
termination_by q
decreasing_by
  have := threshold_pos k bias
  have := threshold_le k bias
  calc (q - threshold k bias) / (36 - threshold k bias)
      ≤ q - threshold k bias := Nat.div_le_self _ _
    _ < q := by omega

/-- The encoder between two code points: what it has written, the pending delta, the bias,
and how many characters of the label it has placed. -/
structure EncoderState where
  written : List Char
  delta : Nat
  bias : Nat
  placed : Nat

/-- Passes over one character of the label while placing code point `m`: a smaller one
counts in the delta, `m` itself is written. `basic` is the number of ASCII characters. -/
def EncoderState.visit (basic m : Nat) (st : EncoderState) (c : Char) : EncoderState :=
  if c.toNat < m then { st with delta := st.delta + 1 }
  else if c.toNat = m then
    { written := st.written ++ writeDelta st.bias 36 st.delta, delta := 0,
      bias := adapt st.delta (st.placed + 1) (st.placed == basic), placed := st.placed + 1 }
  else st

/-- Places the code points `ms` (sorted, distinct, all at least `n`) one after another. -/
def placeAll (label : List Char) (basic : Nat) : List Nat → Nat → EncoderState → EncoderState
  | [], _, st => st
  | m :: ms, n, st =>
    let st := { st with delta := st.delta + (m - n) * (st.placed + 1) }
    let st := label.foldl (EncoderState.visit basic m) st
    placeAll label basic ms (m + 1) { st with delta := st.delta + 1 }

/-- Encodes a label in Punycode (without the `xn--` prefix). A label of more than
`encodeLimit` characters is refused; below that bound no delta can overflow the 32-bit
counters. -/
def encode? (label : List Char) : Option (List Char) :=
  if encodeLimit < label.length then none
  else
    let basic := label.filter (fun c => c.toNat < 128)
    let others := ((label.map Char.toNat).filter (128 ≤ ·)).mergeSort.eraseDups
    let st := placeAll label basic.length others 128 ⟨[], 0, 72, basic.length⟩
    some (basic ++ (if basic.isEmpty then [] else ['-']) ++ st.written)

end ShipSlap.Idna.Punycode
