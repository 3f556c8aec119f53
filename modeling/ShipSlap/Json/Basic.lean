import ShipSlap.Decimal.Format
import ShipSlap.Text.Quote
import ShipSlap.Bytes.Basic
/-!
JSON values as the lookup queries and the request lines carry them. Numbers keep the class they
were read in: an unsigned 64-bit integer, a negative 64-bit integer, or a binary64 float, since
the query rules treat the classes differently. Objects keep their members in order; `get?` finds
the last member of a name, as a reader that overwrites duplicates would. The compact text puts
no blanks between tokens, escapes quotes, backslashes and controls, and writes floats in the
`json` decimal style.
-/
namespace ShipSlap

/-- A JSON number in the class it was read in. -/
inductive JsonNumber where
  /-- An integer in `[0, 2 ^ 64)`. -/
  | nat (n : Nat)
  /-- A negative integer in `[-2 ^ 63, 0)`. -/
  | negInt (n : Int)
  /-- Any other number, as a finite binary64 value. -/
  | float (f : Binary64)
  deriving Repr, DecidableEq

/-- A JSON value. -/
inductive Json where
  | null
  | bool (b : Bool)
  | num (n : JsonNumber)
  | str (s : String)
  | arr (items : List Json)
  | obj (members : List (String × Json))
  deriving Repr, Inhabited

/-- The text of a number. -/
def JsonNumber.render : JsonNumber → String
  | .nat n => toString n
  | .negInt n => toString n
  | .float f => if f.isFinite then DecimalStyle.json.format f else "null"

namespace Json

/-- The value of the last member named `key` of an object. -/
def get? (j : Json) (key : String) : Option Json :=
  match j with
  | .obj members => (members.reverse.find? (·.1 == key)).map (·.2)
  | _ => none

/-- A natural number as a JSON value. -/
def ofNat (n : Nat) : Json := .num (.nat n)

/-- An optional value, `null` when absent. -/
def ofOption {α : Type} (f : α → Json) : Option α → Json
  | some a => f a
  | none => .null

/-- How one character is written inside a JSON string. -/
def escapeChar (c : Char) : String :=
  if c = '"' then "\\\""
  else if c = '\\' then "\\\\"
  else if c = '\n' then "\\n"
  else if c = '\r' then "\\r"
  else if c = '\t' then "\\t"
  else if c = '\x08' then "\\b"
  else if c = '\x0c' then "\\f"
  else if c.toNat < 0x20 then
    "\\u00" ++ String.ofList [Bytes.hexDigit (c.toNat / 16), Bytes.hexDigit (c.toNat % 16)]
  else c.toString

/-- A JSON string literal. -/
def quote (s : String) : String :=
  "\"" ++ String.join (s.toList.map escapeChar) ++ "\""

/-- The compact text of a value. -/
def render : Json → String
  | .null => "null"
  | .bool b => if b then "true" else "false"
  | .num n => n.render
  | .str s => quote s
  | .arr items => "[" ++ ",".intercalate (items.map render) ++ "]"
  | .obj members =>
    "\x7b" ++ ",".intercalate (members.attach.map fun ⟨m, _⟩ => quote m.1 ++ ":" ++ render m.2) ++
      "\x7d"
decreasing_by
  all_goals simp_wf
  · have := List.sizeOf_lt_of_mem (by assumption : _ ∈ items); omega
  · rename_i h
    have := List.sizeOf_lt_of_mem h
    cases m; simp_all; omega

end Json

end ShipSlap
