import ShipSlap.Decimal.Shortest
/-!
Text of binary64 values from their shortest digits. A `DecimalStyle` records the decisions of
one format: up to which point positions a value is written positionally (beyond them it takes
`e` and an exponent, signed or not when positive), whether an integral value keeps a `.0`, and
the words for NaN and the infinities. Three styles are used: `plain` (always positional, no
`.0`), `pointed` (the same, but an integral value keeps `.0`) and `json` (positional for decimal
points from 5 places left of the first digit up to 16 places right of it, `.0` kept, exponents
signed: `1e+16`, `1e-6`).
-/
namespace ShipSlap

/-- The decisions of one text format for binary64 values. -/
structure DecimalStyle where
  /-- The point positions (counted from the first digit: `0.0d` is `-1`, `d0.0` is `2`) that are
  written without an exponent; `none` means all of them. -/
  positional : Option (Int × Int)
  /-- Whether a positive exponent is written with a `+`. -/
  plusExponent : Bool
  /-- Whether an integral value keeps a `.0`. -/
  pointZero : Bool
  /-- The word for NaN. -/
  nanText : String
  /-- The word for infinity. -/
  infText : String

namespace DecimalStyle

/-- Always positional, no `.0`: `100`, `0.001`, `-0`, `NaN`, `inf`. -/
def plain : DecimalStyle := ⟨none, false, false, "NaN", "inf"⟩

/-- Always positional, integral values with `.0`: `100.0`, `0.001`, `-0.0`. -/
def pointed : DecimalStyle := ⟨none, false, true, "NaN", "inf"⟩

/-- JSON numbers: `100.0`, `1e+16` from seventeen places on, `0.00001` and `1e-6` below. -/
def json : DecimalStyle := ⟨some (-5, 16), true, true, "NaN", "inf"⟩

/-- `n` zeros. -/
def zeros (n : Nat) : String := String.ofList (List.replicate n '0')

/-- The text of the digits `ds` with the decimal point `k` places after the first digit. -/
def render (st : DecimalStyle) (ds : String) (k : Int) : String :=
  let len : Int := ds.length
  let positional := match st.positional with
    | none => true
    | some (lo, hi) => lo < k ∧ k ≤ hi
  if positional then
    if k ≤ 0 then "0." ++ zeros (-k).toNat ++ ds
    else if k < len then
      String.ofList (ds.toList.take k.toNat) ++ "." ++ String.ofList (ds.toList.drop k.toNat)
    else ds ++ zeros (k - len).toNat ++ (if st.pointZero then ".0" else "")
  else
    let expText := (if st.plusExponent ∧ 0 ≤ k - 1 then "+" else "") ++ toString (k - 1)
    match ds.toList with
    | [d] => String.ofList [d] ++ "e" ++ expText
    | d :: rest => String.ofList [d] ++ "." ++ String.ofList rest ++ "e" ++ expText
    | [] => "0e" ++ expText

/-- The text of a value in this style. -/
def format (st : DecimalStyle) : Binary64 → String
  | .nan => st.nanText
  | .infinite s => (if s then "-" else "") ++ st.infText
  | .finite s m e =>
    let sign := if s then "-" else ""
    if m = 0 then sign ++ (if st.pointZero then "0.0" else "0")
    else
      let (c, g) := Binary64.shortest m e
      let ds := toString c
      sign ++ st.render ds (g + ds.length)

end DecimalStyle

end ShipSlap
