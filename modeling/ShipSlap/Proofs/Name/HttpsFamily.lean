import Mathlib
import ShipSlap.Name.Uri
/-!
The `https` family of advertisable URIs. Main statement: `validateUri_httpsFamily`, a URI of
any scheme of the family is judged as the same text after `https://` would be, with the same
error when it is refused; and it is accepted exactly when the address reads, its host is
present and not `localhost` in any letter case, and its path as written is empty or `/`.

Schemes are told apart by the literal text a URI starts with, tried in a fixed order. No scheme's
opening is the front of another's (`opening_prefix_iff`), so the order does not matter and a
URI that starts with an opening gets that scheme (`detect?_opening_append`). After the opening
every scheme of the family runs the same checks on the same text
(`validateUri_opening_append`).
-/
namespace ShipSlap

/-- A text whose first character is not blank is not blank once trimmed. -/
theorem Text.trim_isEmpty_of_head {u : String} {c : Char} {cs : List Char}
    (hu : u.toList = c :: cs) (hc : Text.isBlank c = false) : (Text.trim u).isEmpty = false := by
  have hne : (cs.reverse ++ [c]).dropWhile Text.isBlank ≠ [] := by
    rw [Ne, List.dropWhile_eq_nil_iff]
    intro h
    simpa [hc] using h c (by simp)
  rw [Text.trim, Text.trimChars, hu, List.dropWhile_cons_of_neg (by simp [hc]),
    List.reverse_cons]
  simpa [String.isEmpty] using hne

namespace Name

open ShipSlap.Url

/-- The schemes checked as `https` addresses. -/
def UriScheme.httpsFamily : List UriScheme :=
  [.https, .httpsBsvAuth, .httpsBsvAuthSmf, .httpsBsvAuthScryptOffchain, .httpsRtt]

/-- **No scheme's opening is the front of another's.** -/
theorem UriScheme.opening_prefix_iff (s s' : UriScheme) :
    s'.opening.toList <+: s.opening.toList ↔ s' = s := by
  cases s <;> cases s' <;> decide

/-- A URI that starts with the opening of a scheme is read as of that scheme, wherever the
scheme stands in the order they are tried. -/
theorem UriScheme.detect?_opening_append (s : UriScheme) (r : String) :
    UriScheme.detect? (s.opening ++ r) = some s := by
  -- an opening that is the front of the URI is comparable with `s`'s opening, so it is `s`'s
  have hfront (x : UriScheme) :
      x.opening.toList.isPrefixOf (s.opening ++ r).toList = (x == s) := by
    rw [Bool.eq_iff_iff, List.isPrefixOf_iff_prefix, beq_iff_eq, String.toList_append]
    constructor
    · intro hx
      rcases List.prefix_or_prefix_of_prefix hx (List.prefix_append _ _) with h | h
      · exact (opening_prefix_iff s x).mp h
      · exact ((opening_prefix_iff x s).mp h).symm
    · rintro rfl
      exact List.prefix_append _ _
  rw [UriScheme.detect?, funext hfront]
  cases s <;> rfl

/-- The host check: present, and not `localhost` in any letter case. -/
theorem checkHost_eq_ok_iff (a : Authority) :
    checkHost a = .ok () ↔
      a.host.text ≠ "" ∧ a.host.text.toList.map Char.toLower ≠ "localhost".toList := by
  have hlocal : "localhost".toList.map Char.toLower = "localhost".toList := by decide
  rw [checkHost]
  split_ifs with hempty hlocalhost
  · -- no host
    simp_all
  · -- `localhost`, in some letter case
    simp_all [equalsIgnoringCase]
  · simp_all [equalsIgnoringCase]

/-- The checks an address of the `https` family gets, from the text `r` after its opening: the
address must read, its host must pass the host check, and its path as written must be empty or
`/`. -/
def httpsChecks (r : String) : Except NameError Unit := do
  checkHost (← readAuthority ("//" ++ r))
  let path := rawPath r
  if !(path.isEmpty || path = "/") then throw (.pathNotAllowed path)

/-- The raw path is what stands before any `?` or `#`, from the first slash or backslash on:
a query or a fragment may hold slashes, a backslash or a doubled slash is a path. -/
example : rawPath "example.com/?q=a/b" = "/" ∧ rawPath "example.com#frag/x" = "" ∧
    rawPath "example.com\\" = "\\" ∧ rawPath "example.com//" = "//" ∧
    rawPath "example.com/a/.." = "/a/.." := by
  decide

/-- Running the checks and then answering a scheme answers that scheme when they pass. -/
theorem httpsChecks_then (r : String) (s : UriScheme) :
    (do
        checkHost (← readAuthority ("//" ++ r))
        if !((rawPath r).isEmpty || rawPath r = "/") then
          throw (NameError.pathNotAllowed (rawPath r))
        pure s) = (httpsChecks r).map (fun _ => s) := by
  unfold httpsChecks
  cases readAuthority ("//" ++ r) with
  | error e => rfl
  | ok a =>
    simp only [bind, Except.bind]
    cases checkHost a with
    | error e => rfl
    | ok u => cases (!((rawPath r).isEmpty || rawPath r = "/")) <;> rfl

/-- **After its opening, a URI of the `https` family gets the `https` checks**, and is accepted
under its own scheme when it passes them. -/
theorem validateUri_opening_append {s : UriScheme} (hs : s ∈ UriScheme.httpsFamily)
    (r : String) : validateUri (s.opening ++ r) = (httpsChecks r).map (fun _ => s) := by
  -- every opening of the family starts with `h`, which is not blank
  have hhead : ∃ cs, s.opening.toList = 'h' :: cs := by
    simp only [UriScheme.httpsFamily, List.mem_cons, List.not_mem_nil, or_false] at hs
    rcases hs with rfl | rfl | rfl | rfl | rfl <;> exact ⟨_, rfl⟩
  obtain ⟨cs, hcs⟩ := hhead
  have htrim : (Text.trim (s.opening ++ r)).isEmpty = false :=
    Text.trim_isEmpty_of_head (by rw [String.toList_append, hcs, List.cons_append]) (by decide)
  have hrest : String.ofList ((s.opening ++ r).toList.drop s.opening.length) = r := by
    rw [String.toList_append, ← String.length_toList, List.drop_left, String.ofList_toList]
  simp only [UriScheme.httpsFamily, List.mem_cons, List.not_mem_nil, or_false] at hs
  -- the scheme is found from the opening, and what follows the opening is `r`
  rcases hs with rfl | rfl | rfl | rfl | rfl <;>
    simp only [validateUri, htrim, UriScheme.detect?_opening_append, Bool.false_eq_true,
      if_false, pure_bind, hrest] <;>
    exact httpsChecks_then r _

/-- An address is read when the authority parser reads it. -/
theorem readAuthority_eq_ok_iff {t : String} {a : Authority} :
    readAuthority t = .ok a ↔ Authority.parse 443 t = .ok a := by
  rw [readAuthority]
  cases Authority.parse 443 t <;> simp [Except.mapError]

/-- The `https` checks pass exactly when the address reads, its host is present and not
`localhost`, and the path is empty or `/`. -/
theorem httpsChecks_eq_ok_iff (r : String) :
    httpsChecks r = .ok () ↔
      (∃ a, Authority.parse 443 ("//" ++ r) = .ok a ∧ a.host.text ≠ "" ∧
        a.host.text.toList.map Char.toLower ≠ "localhost".toList) ∧
      (rawPath r = "" ∨ rawPath r = "/") := by
  have hpath : (!((rawPath r).isEmpty || rawPath r = "/")) = false ↔
      (rawPath r = "" ∨ rawPath r = "/") := by
    simp [String.isEmpty, or_iff_not_imp_left]
  simp only [← checkHost_eq_ok_iff]
  unfold httpsChecks readAuthority
  -- the address, the host and the path, in the order they are checked
  cases Authority.parse 443 ("//" ++ r) with
  | error e => simp [Except.mapError, bind, Except.bind]
  | ok a =>
    simp only [Except.mapError, bind, Except.bind]
    cases hhost : checkHost a with
    | error e => simp [hhost]
    | ok u =>
      cases hcond : (!((rawPath r).isEmpty || rawPath r = "/"))
      · simp [← hpath, hcond, hhost, pure, Except.pure]
      · simp [← hpath, hcond]

/-- **All `https` schemes are validated alike.** For every scheme `s` of the family and every
text `r`, `s`'s opening followed by `r` is accepted as `s` exactly when `https://` followed by
`r` is accepted as `https`, and is otherwise refused with the same error; and `https://` followed
by `r` is accepted exactly when the address after `https:` reads, its host is present and not
`localhost` up to ASCII case, and the raw path of `r` (what stands before the first `?` or `#`,
from the first `/` or `\` on) is empty or `/`. -/
theorem validateUri_httpsFamily (s : UriScheme) (hs : s ∈ UriScheme.httpsFamily) (r : String) :
    validateUri (s.opening ++ r) = (validateUri ("https://" ++ r)).map (fun _ => s) ∧
      (validateUri ("https://" ++ r) = .ok .https ↔
        (∃ a, Authority.parse 443 ("//" ++ r) = .ok a ∧ a.host.text ≠ "" ∧
          a.host.text.toList.map Char.toLower ≠ "localhost".toList) ∧
        (rawPath r = "" ∨ rawPath r = "/")) := by
  have hhttps : validateUri ("https://" ++ r) = (httpsChecks r).map (fun _ => .https) :=
    validateUri_opening_append (s := .https) (by decide) r
  rw [validateUri_opening_append hs, hhttps, ← httpsChecks_eq_ok_iff]
  -- both run the same checks on the same text and differ in the scheme they return
  cases httpsChecks r with
  | error e => exact ⟨rfl, by simp [Except.map]⟩
  | ok u => exact ⟨rfl, by simp [Except.map]⟩

theorem validateUri_httpsFamily_scryptOffchain :
    UriScheme.httpsBsvAuthScryptOffchain ∈ UriScheme.httpsFamily ∧
      validateUri (UriScheme.httpsBsvAuthScryptOffchain.opening ++ "example.com/") =
        (validateUri ("https://" ++ "example.com/")).map
          (fun _ => UriScheme.httpsBsvAuthScryptOffchain) ∧
      (validateUri ("https://" ++ "example.com/") = .ok .https ↔
        (∃ a, Authority.parse 443 ("//" ++ "example.com/") = .ok a ∧ a.host.text ≠ "" ∧
          a.host.text.toList.map Char.toLower ≠ "localhost".toList) ∧
        (rawPath "example.com/" = "" ∨ rawPath "example.com/" = "/")) :=
  have hs : UriScheme.httpsBsvAuthScryptOffchain ∈ UriScheme.httpsFamily := by decide
  ⟨hs, validateUri_httpsFamily _ hs "example.com/"⟩

end Name

end ShipSlap
