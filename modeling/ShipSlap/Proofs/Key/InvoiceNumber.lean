import Mathlib
import ShipSlap.Key.Derivation
/-!
Invoice numbers. Main statement: `DerivationContext.invoiceNumber_separates`, two contexts with
the same invoice number have the same security level, the same normalised protocol name and the
same key id, so different derivation domains never hash the same text.

An invoice number is `"<level>-<name>-<key id>"` (`invoiceNumber_eq_ok_iff`), with the name
trimmed, lowercased and obeying the name rules (`normalizedName_eq_ok_iff`). The level is one
digit; the name's alphabet has no dash, while the key id may hold any text, dashes included. So
the first dash ends the level and the second ends the name (`eq_of_append_sep`), and what
follows is the key id.
-/
namespace ShipSlap

/-- What a normalised protocol name obeys: 5 to 400 bytes of lowercase ASCII letters, digits
and spaces, no two spaces in a row, and no `" protocol"` at the end. -/
structure ProtocolNameRules (name : String) : Prop where
  size_ge : 5 ≤ name.utf8ByteSize
  size_le : name.utf8ByteSize ≤ 400
  alphabet : ∀ c ∈ name.toList, ('a' ≤ c ∧ c ≤ 'z') ∨ ('0' ≤ c ∧ c ≤ '9') ∨ c = ' '
  no_double_space : ¬[' ', ' '] <:+: name.toList
  no_protocol_suffix : ¬" protocol".toList <:+ name.toList

/-- The test for two spaces in a row finds them anywhere. -/
theorem hasDoubleSpace_iff (cs : List Char) : hasDoubleSpace cs = true ↔ [' ', ' '] <:+: cs := by
  fun_induction hasDoubleSpace cs with
  | case1 rest => simpa using List.infix_append [] [' ', ' '] rest
  | case2 c rest hnot ih =>
    -- two spaces at the front are the first case, so here they can only stand further on
    rw [ih, List.infix_cons_iff, or_iff_right]
    rintro ⟨t, ht⟩
    simp only [List.cons_append, List.nil_append, List.cons.injEq] at ht
    exact hnot t ht.1.symm ht.2.symm
  | case3 => simp

theorem isNameChar_iff (c : Char) :
    isNameChar c = true ↔ ('a' ≤ c ∧ c ≤ 'z') ∨ ('0' ≤ c ∧ c ≤ '9') ∨ c = ' ' := by
  simp [isNameChar, or_assoc]

/-- A name of the protocol-name alphabet has no dash. -/
theorem ProtocolNameRules.dash_not_mem {name : String} (h : ProtocolNameRules name) :
    '-' ∉ name.toList := by
  intro hmem
  rcases h.alphabet '-' hmem with ⟨h1, -⟩ | ⟨h1, -⟩ | h3
  · exact absurd h1 (by decide)
  · exact absurd h1 (by decide)
  · exact absurd h3 (by decide)

/-- **What the name check accepts**: exactly the trimmed, lowercased name, when it obeys the
name rules. -/
theorem WalletProtocol.normalizedName_eq_ok_iff {p : WalletProtocol} {name : String} :
    p.normalizedName = .ok name ↔
      name = Text.toLower (Text.trim p.name) ∧ ProtocolNameRules name := by
  have hsuffix (s : String) :
      s.endsWith " protocol" = true ↔ " protocol".toList <:+ s.toList := by
    simp [← String.endsWith_toSlice]
  have hall (s : String) : s.toList.all isNameChar = true ↔
      ∀ c ∈ s.toList, ('a' ≤ c ∧ c ≤ 'z') ∨ ('0' ≤ c ∧ c ≤ '9') ∨ c = ' ' := by
    simp only [List.all_eq_true, isNameChar_iff]
  rw [WalletProtocol.normalizedName]
  -- the checks read the normalised name only; naming it keeps Lean from evaluating it
  generalize Text.toLower (Text.trim p.name) = n
  constructor
  · intro h
    split_ifs at h with hmin hmax hdouble hchars hsuf
    cases h
    simp only [Bool.not_eq_true', Bool.not_eq_false] at hchars
    refine ⟨rfl, by omega, by omega, (hall _).mp hchars, ?_, ?_⟩
    · rw [← hasDoubleSpace_iff]
      exact hdouble
    · rw [← hsuffix]
      exact hsuf
  · rintro ⟨rfl, hrules⟩
    have hdouble : ¬hasDoubleSpace name.toList = true := by
      rw [hasDoubleSpace_iff]
      exact hrules.no_double_space
    have hchars : name.toList.all isNameChar = true := (hall _).mpr hrules.alphabet
    have hsuf : ¬name.endsWith " protocol" = true := by
      rw [hsuffix]
      exact hrules.no_protocol_suffix
    rw [if_neg (by have := hrules.size_ge; omega), if_neg (by have := hrules.size_le; omega),
      if_neg hdouble, if_neg (by simpa using hchars), if_neg hsuf]

/-- A separator that neither front part holds splits two joined lists at the same place. -/
theorem eq_of_append_sep {α : Type} {sep : α} {a b c d : List α} (ha : sep ∉ a) (hc : sep ∉ c)
    (h : a ++ sep :: b = c ++ sep :: d) : a = c ∧ b = d := by
  rcases List.append_eq_append_iff.mp h with ⟨e, rfl, he⟩ | ⟨e, rfl, he⟩
  · -- `c = a ++ e`: `e` starts with the separator unless it is empty, and `c` holds none
    cases e with
    | nil => simpa using he
    | cons x e =>
      simp only [List.cons_append, List.cons.injEq] at he
      exact absurd (List.mem_append_right a (he.1 ▸ List.mem_cons_self ..)) hc
  · cases e with
    | nil => simpa using he.symm
    | cons x e =>
      simp only [List.cons_append, List.cons.injEq] at he
      exact absurd (List.mem_append_right c (he.1 ▸ List.mem_cons_self ..)) ha

/-- The level is written as one digit, so texts that start with two levels and agree start with
the same level. -/
theorem SecurityLevel.eq_of_toString_append {l₁ l₂ : SecurityLevel} {r₁ r₂ : List Char}
    (h : (toString l₁.toNat).toList ++ r₁ = (toString l₂.toNat).toList ++ r₂) :
    l₁ = l₂ ∧ r₁ = r₂ := by
  have hdigit (l : SecurityLevel) : (toString l.toNat).toList = [Char.ofNat (48 + l.toNat)] := by
    cases l <;> rfl
  rw [hdigit, hdigit, List.singleton_append, List.singleton_append, List.cons.injEq] at h
  obtain ⟨hd, hr⟩ := h
  refine ⟨?_, hr⟩
  -- the digit names the level
  revert hd
  cases l₁ <;> cases l₂ <;> decide

namespace DerivationContext

/-- What an invoice number is: the level's digit, the normalised protocol name and the key id,
joined by dashes, where the name obeys the name rules and the key id has 1 to 800 bytes. -/
structure IsInvoiceOf (ctx : DerivationContext) (s : String) : Prop where
  name_rules : ProtocolNameRules (Text.toLower (Text.trim ctx.protocol.name))
  keyId_size_ge : 1 ≤ ctx.keyId.utf8ByteSize
  keyId_size_le : ctx.keyId.utf8ByteSize ≤ 800
  eq_join : s = toString ctx.protocol.level.toNat ++ "-" ++
    Text.toLower (Text.trim ctx.protocol.name) ++ "-" ++ ctx.keyId

/-- **The invoice number exists exactly when the key id and the name pass their checks**, and
is then the three joined by dashes. -/
theorem invoiceNumber_eq_ok_iff {ctx : DerivationContext} {s : String} :
    ctx.invoiceNumber = .ok s ↔ IsInvoiceOf ctx s := by
  have hne : 1 ≤ ctx.keyId.utf8ByteSize ↔ ctx.keyId.isEmpty = false := by
    rw [Nat.one_le_iff_ne_zero, Ne, String.utf8ByteSize_eq_zero_iff]
    simp [String.isEmpty]
  rw [invoiceNumber]
  constructor
  · intro h
    split_ifs at h with hempty hlong
    -- what is left is the name check, then the joined text
    cases hn : ctx.protocol.normalizedName with
    | error e =>
      rw [hn] at h
      cases h
    | ok name =>
      rw [hn] at h
      cases h
      obtain ⟨rfl, hrules⟩ := Iff.mp WalletProtocol.normalizedName_eq_ok_iff hn
      exact ⟨hrules, hne.mpr (by simpa using hempty), by omega, rfl⟩
  · intro h
    have hname : ctx.protocol.normalizedName = .ok (Text.toLower (Text.trim ctx.protocol.name)) :=
      Iff.mpr WalletProtocol.normalizedName_eq_ok_iff ⟨rfl, h.name_rules⟩
    rw [if_neg (by simpa using hne.mp h.keyId_size_ge),
      if_neg (by have := h.keyId_size_le; omega), hname, h.eq_join]
    rfl

/-- **Invoice numbers separate derivation domains.** Two contexts with the same invoice number
have the same security level, the same protocol name once trimmed and lowercased, and the same
key id; and the number is the level's digit, the name and the key id joined by dashes, the name
obeying the name rules and the key id 1 to 800 bytes. -/
theorem invoiceNumber_separates {c₁ c₂ : DerivationContext} {s : String}
    (h₁ : c₁.invoiceNumber = .ok s) (h₂ : c₂.invoiceNumber = .ok s) :
    IsInvoiceOf c₁ s ∧ c₁.protocol.level = c₂.protocol.level ∧
      Text.toLower (Text.trim c₁.protocol.name) = Text.toLower (Text.trim c₂.protocol.name) ∧
      c₁.keyId = c₂.keyId := by
  have hi₁ := Iff.mp invoiceNumber_eq_ok_iff h₁
  have hi₂ := Iff.mp invoiceNumber_eq_ok_iff h₂
  -- both numbers as characters: a digit, a dash, the name, a dash, the key id
  have hjoin := congrArg String.toList (hi₁.eq_join.symm.trans hi₂.eq_join)
  simp only [String.toList_append, List.append_assoc] at hjoin
  obtain ⟨hlevel, hrest⟩ := SecurityLevel.eq_of_toString_append hjoin
  have hdash : "-".toList = ['-'] := rfl
  simp only [hdash, List.cons_append, List.nil_append, List.cons.injEq, true_and] at hrest
  -- neither name holds a dash, so the dash after each ends it
  obtain ⟨hname, hkey⟩ :=
    eq_of_append_sep hi₁.name_rules.dash_not_mem hi₂.name_rules.dash_not_mem hrest
  exact ⟨hi₁, hlevel, String.toList_inj.mp hname, String.toList_inj.mp hkey⟩

/-- The host interconnect protocol with blanks around its name, key `1-2`, shared with
everybody. -/
def paddedContext : DerivationContext :=
  ⟨⟨.everyAppAndCounterparty, " Service Host Interconnect"⟩, "1-2", .anyone⟩

/-- The same protocol in other letter cases and with a trailing tab, shared with the wallet
itself. -/
def recasedContext : DerivationContext :=
  ⟨⟨.everyAppAndCounterparty, "service HOST interconnect\t"⟩, "1-2", .self⟩

theorem invoiceNumber_separates_spellings :
    paddedContext.invoiceNumber = .ok "2-service host interconnect-1-2" ∧
      recasedContext.invoiceNumber = .ok "2-service host interconnect-1-2" ∧
      IsInvoiceOf paddedContext "2-service host interconnect-1-2" ∧
      paddedContext.protocol.level = recasedContext.protocol.level ∧
      Text.toLower (Text.trim paddedContext.protocol.name) =
        Text.toLower (Text.trim recasedContext.protocol.name) ∧
      paddedContext.keyId = recasedContext.keyId :=
  have h₁ : paddedContext.invoiceNumber = .ok "2-service host interconnect-1-2" := by
    decide +kernel
  have h₂ : recasedContext.invoiceNumber = .ok "2-service host interconnect-1-2" := by
    decide +kernel
  ⟨h₁, h₂, invoiceNumber_separates h₁ h₂⟩

end DerivationContext

end ShipSlap
