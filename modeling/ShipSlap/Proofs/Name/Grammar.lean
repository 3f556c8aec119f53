import Mathlib
import ShipSlap.Name.Topic
/-!
The grammar of topic and service names as a regular expression, and the validator against it.
`namePattern` is `(tm_|ls_)[a-z]+(_[a-z]+)*`; a name is in the grammar when the whole of it is
in the language of the pattern, so nothing may follow the last word, not even a newline.
Main statements:

1. `grammatical_iff`: the letter-by-letter recognizer accepts exactly the names in the
   language of the pattern.
2. `validate_decides_grammar`: the validator refuses the empty name as empty, then a name of
   more than 50 UTF-8 bytes as too long with its byte length, then accepts exactly the names in
   the language and refuses the rest as out of format; `isValid` is acceptance.

The recognizer reads one letter at a time, remembering whether the last character was a
letter. Its two states stand for two languages: after a letter the rest is `[a-z]*(_[a-z]+)*`,
before one it is `[a-z]+(_[a-z]+)*`. Unfolding the stars once (`one_add_self_mul_kstar_eq_kstar`)
gives each language as the empty word, or a letter or an underscore followed by one of the two,
which is the recognizer's step.
-/
namespace ShipSlap.Name

open RegularExpression Computability

/-- A regular expression matching exactly the text `s`. -/
def literal (s : String) : RegularExpression Char :=
  s.toList.foldr (fun c r => char c * r) 1

/-- A class of characters `[…]`: one character of the list. -/
def anyOf (cs : List Char) : RegularExpression Char :=
  cs.foldr (fun c r => char c + r) 0

/-- `[a-z]`. -/
def lowerClass : RegularExpression Char :=
  anyOf ((List.range' 97 26).map Char.ofNat)

/-- `[a-z]+`. -/
def word : RegularExpression Char :=
  lowerClass * lowerClass.star

/-- `(tm_|ls_)[a-z]+(_[a-z]+)*`. -/
def namePattern : RegularExpression Char :=
  (literal "tm_" + literal "ls_") * word * (char '_' * word).star

/-! ## The languages of the parts -/

theorem matches'_literal (s : String) : (literal s).matches' = {s.toList} := by
  unfold literal
  induction s.toList with
  | nil => rfl
  | cons c cs ih =>
    ext w
    simp only [List.foldr_cons, matches'_mul, matches'_char, ih, Language.mem_mul]
    constructor
    · rintro ⟨a, rfl, b, rfl, rfl⟩
      rfl
    · rintro rfl
      exact ⟨[c], rfl, cs, rfl, rfl⟩

theorem mem_matches'_anyOf (cs : List Char) (w : List Char) :
    w ∈ (anyOf cs).matches' ↔ ∃ c ∈ cs, w = [c] := by
  unfold anyOf
  induction cs with
  | nil => simp [matches'_zero]
  | cons c cs ih =>
    simp only [List.foldr_cons, matches'_add, Language.mem_add, matches'_char, ih,
      List.mem_cons, exists_eq_or_imp]
    rfl

theorem isLower_iff (c : Char) : isLower c = true ↔ 97 ≤ c.toNat ∧ c.toNat ≤ 122 := by
  simp only [isLower, Bool.and_eq_true, decide_eq_true_eq, Char.le_def, UInt32.le_iff_toNat_le]
  rfl

/-- The characters `Char.ofNat 97` to `Char.ofNat 122` are the lowercase letters. -/
theorem mem_letters {c : Char} : c ∈ (List.range' 97 26).map Char.ofNat ↔ isLower c = true := by
  rw [isLower_iff, List.mem_map]
  constructor
  · rintro ⟨n, hn, rfl⟩
    rw [List.mem_range'_1] at hn
    have hvalid : n.isValidChar := Or.inl (by omega)
    rw [Char.toNat_ofNat, if_pos hvalid]
    omega
  · rintro ⟨hlo, hhi⟩
    exact ⟨c.toNat, List.mem_range'_1.mpr ⟨hlo, by omega⟩, Char.ofNat_toNat c⟩

theorem mem_lowerClass (w : List Char) :
    w ∈ lowerClass.matches' ↔ ∃ c, isLower c = true ∧ w = [c] := by
  simp only [lowerClass, mem_matches'_anyOf, mem_letters]

/-! ## Reading the first character -/

section Singletons

variable {P M : Language Char} {p : Char → Prop}

/-- A word of a product whose left factor holds single characters starts with one of them. -/
theorem cons_mem_mul_iff (hP : ∀ w, w ∈ P ↔ ∃ c, p c ∧ w = [c]) {c : Char}
    {rest : List Char} :
    c :: rest ∈ P * M ↔ p c ∧ rest ∈ M := by
  rw [Language.mem_mul]
  constructor
  · rintro ⟨a, ha, b, hb, hab⟩
    obtain ⟨c', hc', rfl⟩ := (hP a).mp ha
    simp only [List.singleton_append, List.cons.injEq] at hab
    obtain ⟨rfl, rfl⟩ := hab
    exact ⟨hc', hb⟩
  · rintro ⟨hc, hrest⟩
    exact ⟨[c], (hP _).mpr ⟨c, hc, rfl⟩, rest, hrest, rfl⟩

theorem nil_not_mem_mul (hP : ∀ w, w ∈ P ↔ ∃ c, p c ∧ w = [c]) : [] ∉ P * M := by
  rw [Language.mem_mul]
  rintro ⟨a, ha, b, -, hab⟩
  obtain ⟨c, -, rfl⟩ := (hP a).mp ha
  simp at hab

end Singletons

theorem mem_char (a : Char) (w : List Char) :
    w ∈ (char a).matches' ↔ ∃ c, c = a ∧ w = [c] := by
  rw [matches'_char]
  constructor
  · intro hw
    exact ⟨a, rfl, hw⟩
  · rintro ⟨c, rfl, hw⟩
    exact hw

/-! ## The two states of the recognizer -/

/-- What may follow a letter: `[a-z]*(_[a-z]+)*`. -/
def afterLetter : Language Char :=
  lowerClass.matches'∗ * (char '_' * word).matches'∗

theorem afterLetter_def : afterLetter = lowerClass.matches'∗ * (char '_' * word).matches'∗ := rfl

/-- What may follow the prefix: `[a-z]+(_[a-z]+)*`. -/
def words : Language Char :=
  word.matches' * (char '_' * word).matches'∗

theorem words_def : words = word.matches' * (char '_' * word).matches'∗ := rfl

theorem words_eq : words = lowerClass.matches' * afterLetter := by
  simp only [words_def, afterLetter_def, word, matches'_mul, matches'_star, mul_assoc]

/-- Unfolding both stars of `l∗ (u w)∗` once: the empty word, a word of `l` in front of the
whole again, or `u w` in front of `w (u w)∗`. -/
theorem kstar_mul_kstar_unfold {α : Type} (l u w : Language α) :
    l∗ * (u * w)∗ = 1 + l * (l∗ * (u * w)∗) + u * (w * (u * w)∗) := by
  calc l∗ * (u * w)∗ = (1 + l * l∗) * (u * w)∗ := by
        rw [Language.one_add_self_mul_kstar_eq_kstar]
    _ = (u * w)∗ + l * (l∗ * (u * w)∗) := by rw [add_mul, one_mul, mul_assoc]
    _ = (1 + u * w * (u * w)∗) + l * (l∗ * (u * w)∗) := by
        rw [Language.one_add_self_mul_kstar_eq_kstar]
    _ = 1 + l * (l∗ * (u * w)∗) + u * (w * (u * w)∗) := by
        rw [mul_assoc u w]
        abel

/-- After a letter: the end, a letter again, or an underscore and then words. -/
theorem afterLetter_eq :
    afterLetter = 1 + lowerClass.matches' * afterLetter + (char '_').matches' * words := by
  simp only [afterLetter_def, words_def, matches'_mul]
  exact kstar_mul_kstar_unfold _ _ _

theorem nil_mem_afterLetter : [] ∈ afterLetter := by
  rw [afterLetter_eq]
  exact Language.mem_add _ _ _ |>.mpr (Or.inl (Language.mem_add _ _ _ |>.mpr (Or.inl rfl)))

theorem cons_mem_afterLetter_iff {c : Char} {rest : List Char} :
    c :: rest ∈ afterLetter ↔
      (isLower c = true ∧ rest ∈ afterLetter) ∨ (c = '_' ∧ rest ∈ words) := by
  conv_lhs => rw [afterLetter_eq]
  simp only [Language.mem_add, cons_mem_mul_iff mem_lowerClass, cons_mem_mul_iff (mem_char '_')]
  have hone : c :: rest ∉ (1 : Language Char) := by simp [Language.mem_one]
  simp [hone]

theorem nil_not_mem_words : [] ∉ words := by
  rw [words_eq]
  exact nil_not_mem_mul mem_lowerClass

theorem cons_mem_words_iff {c : Char} {rest : List Char} :
    c :: rest ∈ words ↔ isLower c = true ∧ rest ∈ afterLetter := by
  rw [words_eq, cons_mem_mul_iff mem_lowerClass]

/-- The recognizer in either state accepts exactly the language of that state; the induction is
on the characters, both states at once. -/
theorem isWordsFrom_iff (cs : List Char) :
    (isWordsFrom true cs = true ↔ cs ∈ afterLetter) ∧
      (isWordsFrom false cs = true ↔ cs ∈ words) := by
  induction cs with
  | nil =>
    exact ⟨by simp [isWordsFrom, nil_mem_afterLetter], by simp [isWordsFrom, nil_not_mem_words]⟩
  | cons c rest ih =>
    rw [cons_mem_afterLetter_iff, cons_mem_words_iff]
    by_cases hc : isLower c = true
    · -- a letter keeps the recognizer after a letter
      have hne : c ≠ '_' := by rintro rfl; simp [isLower] at hc
      simp [isWordsFrom, hc, hne, ih.1]
    · by_cases hu : c = '_'
      · subst hu
        simp [isWordsFrom, hc, ih.2]
      · simp [isWordsFrom, hc, hu]

/-! ## Names -/

/-- A word of `literal s` followed by one of `m` is the text `s` in front of a word of `m`. -/
theorem mem_literal_mul (s : String) (m : Language Char) (cs : List Char) :
    cs ∈ (literal s).matches' * m ↔ ∃ rest, cs = s.toList ++ rest ∧ rest ∈ m := by
  rw [matches'_literal, Language.mem_mul]
  constructor
  · rintro ⟨a, rfl, rest, hr, rfl⟩
    exact ⟨rest, rfl, hr⟩
  · rintro ⟨rest, rfl, hr⟩
    exact ⟨s.toList, rfl, rest, hr, rfl⟩

theorem mem_namePattern_iff (cs : List Char) :
    cs ∈ namePattern.matches' ↔
      (∃ rest, cs = 't' :: 'm' :: '_' :: rest ∧ rest ∈ words) ∨
        (∃ rest, cs = 'l' :: 's' :: '_' :: rest ∧ rest ∈ words) := by
  have hpat : namePattern.matches' =
      (literal "tm_").matches' * words + (literal "ls_").matches' * words := by
    simp only [namePattern, words_def, matches'_mul, matches'_add, matches'_star, add_mul, mul_assoc]
  have htm : "tm_".toList = ['t', 'm', '_'] := by decide
  have hls : "ls_".toList = ['l', 's', '_'] := by decide
  rw [hpat, Language.mem_add, mem_literal_mul, mem_literal_mul, htm, hls]
  rfl

/-- **The recognizer decides the grammar.** A name is grammatical exactly when the whole of it
is in the language of `(tm_|ls_)[a-z]+(_[a-z]+)*`. -/
theorem grammatical_iff (name : String) :
    Grammatical name ↔ name.toList ∈ namePattern.matches' := by
  rw [mem_namePattern_iff]
  unfold Grammatical isWords
  split
  · rename_i rest hcs
    rw [hcs, (isWordsFrom_iff rest).2]
    simp
  · rename_i rest hcs
    rw [hcs, (isWordsFrom_iff rest).2]
    simp
  · rename_i htm hls
    simp only [false_iff, not_or, not_exists, not_and]
    exact ⟨fun rest h _ => htm rest h, fun rest h _ => hls rest h⟩

theorem isValid_iff (name : String) : isValid name = true ↔ validate name = .ok () := by
  unfold isValid
  cases validate name <;> simp [Except.isOk, Except.toBool]

/-- **The validator decides the name grammar.** The empty name is refused as empty; otherwise a
name of more than 50 UTF-8 bytes is refused as too long, with its byte length and the limit;
otherwise a name is accepted exactly when the whole of it is in the language of
`(tm_|ls_)[a-z]+(_[a-z]+)*`, and refused as out of format otherwise. `isValid` is acceptance. -/
theorem validate_decides_grammar (name : String) :
    validate name =
      (if name = "" then .error .emptyName
      else if 50 < name.utf8ByteSize then .error (.nameTooLong name.utf8ByteSize 50)
      else if name.toList ∈ namePattern.matches' then .ok ()
      else .error (.invalidNameFormat name)) ∧
    (isValid name = true ↔ validate name = .ok ()) := by
  refine ⟨?_, isValid_iff name⟩
  have hmax : maxLength = 50 := rfl
  unfold validate
  simp only [hmax, ← String.isEmpty_iff, grammatical_iff]

end ShipSlap.Name
