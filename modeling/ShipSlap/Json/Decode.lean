import ShipSlap.Json.Basic
/-!
Decoding JSON values into typed data, with the wording of a schema-driven decoder: a value of
the wrong kind is an `invalid type`, a number out of the target's range an `invalid value`, and
a record reports the first missing field (in declaration order) after its members have been
read. Members of an object are read in the order of a sorted map: by name, the last of equal
names.
-/
namespace ShipSlap

/-- Why a JSON value could not be decoded. -/
inductive DecodeError where
  | invalidType (found expected : String)
  | invalidValue (found expected : String)
  | invalidLength (length : Nat) (expected : String)
  | missingField (name : String)
  | duplicateField (name : String)
  | custom (message : String)
  deriving Repr, DecidableEq

/-- The wording of a decoding error. -/
def DecodeError.message : DecodeError → String
  | .invalidType found expected => "invalid type: " ++ found ++ ", expected " ++ expected
  | .invalidValue found expected => "invalid value: " ++ found ++ ", expected " ++ expected
  | .invalidLength n expected => "invalid length " ++ toString n ++ ", expected " ++ expected
  | .missingField name => "missing field `" ++ name ++ "`"
  | .duplicateField name => "duplicate field `" ++ name ++ "`"
  | .custom message => message

namespace Json

/-- How a value is named when it is not what a decoder expected. -/
def unexpected : Json → String
  | .null => "null"
  | .bool b => "boolean `" ++ (if b then "true" else "false") ++ "`"
  | .num (.nat n) => "integer `" ++ toString n ++ "`"
  | .num (.negInt n) => "integer `" ++ toString n ++ "`"
  | .num (.float f) => "floating point `" ++ DecimalStyle.json.format f ++ "`"
  | .str s => "string " ++ Text.quote s
  | .arr _ => "sequence"
  | .obj _ => "map"

/-- The value as a string. -/
def asString : Json → Except DecodeError String
  | .str s => .ok s
  | j => .error (.invalidType j.unexpected "a string")

/-- The value as a boolean. -/
def asBool : Json → Except DecodeError Bool
  | .bool b => .ok b
  | j => .error (.invalidType j.unexpected "a boolean")

/-- The value as an unsigned integer of `bits` bits, named `name` in errors. -/
def asUInt (bits : Nat) (name : String) : Json → Except DecodeError Nat
  | .num (.nat n) =>
    if n < Nat.pow 2 bits then .ok n else .error (.invalidValue (Json.num (.nat n)).unexpected name)
  | .num (.negInt n) => .error (.invalidValue (Json.num (.negInt n)).unexpected name)
  | j => .error (.invalidType j.unexpected name)

/-- The items of an array. -/
def asArray : Json → Except DecodeError (List Json)
  | .arr items => .ok items
  | j => .error (.invalidType j.unexpected "a sequence")

/-- A value that may be `null`. -/
def asOption {α : Type} (f : Json → Except DecodeError α) : Json → Except DecodeError (Option α)
  | .null => .ok none
  | j => (f j).map some

/-- The members of an object as a sorted map holds them: ordered by name, and of equal names
the last one. -/
def sortedMembers (members : List (String × Json)) : List (String × Json) :=
  let lastFirst := members.reverse
  let distinct := lastFirst.foldl
    (fun acc m => if acc.any (·.1 == m.1) then acc else acc ++ [m]) []
  distinct.mergeSort (fun a b => decide (a.1 ≤ b.1))

end Json

end ShipSlap
