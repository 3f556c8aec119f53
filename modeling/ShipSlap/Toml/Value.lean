/-!
Values of TOML documents. A document is a table: names bound to strings, integers (64-bit,
signed), floating point numbers, booleans, dates and times, arrays, and tables. Floating point
numbers and dates are kept as written, since nothing here computes with them.
-/
namespace ShipSlap.Toml

/-- A TOML value. -/
inductive TomlValue where
  | str (s : String)
  | int (i : Int)
  | float (text : String)
  | bool (b : Bool)
  | datetime (text : String)
  | arr (items : List TomlValue)
  | table (members : List (String × TomlValue))

/-- The value bound to a name in a table. -/
def lookup (members : List (String × TomlValue)) (key : String) : Option TomlValue :=
  (members.find? (·.1 == key)).map (·.2)

end ShipSlap.Toml
