import ShipSlap.Decimal.Binary64
/-!
Reading decimal text as a binary64 value, rounded to nearest. The grammar: an optional sign,
then `inf`, `infinity` or `nan` in any case, or a number: digits with an optional fraction (at
least one digit on one side of the point) and an optional exponent `e` or `E`, optional sign,
digits. Nothing else may stand in the text, blanks included.
-/
namespace ShipSlap.Decimal

/-- Splits off the leading ASCII digits: their value, their count, and the rest. -/
def takeDigits (cs : List Char) : Nat × Nat × List Char :=
  let ds := cs.takeWhile Char.isDigit
  (ds.foldl (fun v c => 10 * v + (c.toNat - 48)) 0, ds.length, cs.dropWhile Char.isDigit)

/-- Reads an optional sign: whether it is a minus, and the rest. -/
def takeSign : List Char → Bool × List Char
  | '+' :: rest => (false, rest)
  | '-' :: rest => (true, rest)
  | cs => (false, cs)

/-- Reads the exponent part `e±digits`, if the text is exactly that. -/
def readExponent : List Char → Option Int
  | [] => some 0
  | c :: rest =>
    if c = 'e' ∨ c = 'E' then
      let (neg, body) := takeSign rest
      let (v, n, tail) := takeDigits body
      if n = 0 ∨ !tail.isEmpty then none
      else some (if neg then -(v : Int) else v)
    else none

/-- Reads a binary64 number, or nothing if the text does not follow the grammar. -/
def readBinary64 (s : String) : Option Binary64 :=
  let (neg, body) := takeSign s.toList
  let word := String.ofList (body.map Char.toLower)
  if word = "inf" ∨ word = "infinity" then some (.infinite neg)
  else if word = "nan" then some .nan
  else
    let (intVal, intLen, afterInt) := takeDigits body
    let (fracVal, fracLen, afterFrac) := match afterInt with
      | '.' :: rest => takeDigits rest
      | cs => (0, 0, cs)
    if intLen + fracLen = 0 then none
    else
      match readExponent afterFrac with
      | some e =>
        some (Binary64.ofDecimal neg (intVal * Nat.pow 10 fracLen + fracVal) (e - fracLen))
      | none => none

end ShipSlap.Decimal
