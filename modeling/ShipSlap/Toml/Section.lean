import ShipSlap.Toml.Document
/-!
Settings records read from a TOML document. A record is a section of the document: a table,
whose members give its fields by name (other members are ignored), or an array, whose items
give its fields in order (items past the last field are ignored). A field a section does not
give keeps its default, and so does a whole record whose section is absent.
-/
namespace ShipSlap.Toml

/-- The fields of a record as a section gives them. -/
abbrev Section := String → Option TomlValue

/-- The value at position `i` of a list. -/
def itemAt : List TomlValue → Nat → Option TomlValue
  | [], _ => none
  | v :: _, 0 => some v
  | _ :: vs, i + 1 => itemAt vs i

/-- Reads a section of a record with the fields `names`: a table or an array. -/
def Section.ofValue? (names : List String) : TomlValue → Option Section
  | .table members => some (lookup members)
  | .arr items => some fun name => (names.idxOf? name).bind (itemAt items)
  | _ => none

/-- Reads a field of a section with `read`, or takes `default` if the section does not give
it. -/
def Section.field (s : Section) (name : String) (read : TomlValue → Option α) (default : α) :
    Option α :=
  match s name with
  | some v => read v
  | none => some default

/-- Reads the section `name` of a document with `read`, or takes `default` if it is absent. -/
def sectionOf (doc : List (String × TomlValue)) (name : String) (names : List String)
    (read : Section → Option α) (default : α) : Option α :=
  match lookup doc name with
  | some v => Section.ofValue? names v >>= read
  | none => some default

/-- A count: an integer from zero up. -/
def asCount : TomlValue → Option Nat
  | .int i => if 0 ≤ i then some i.toNat else none
  | _ => none

/-- A text. -/
def asText : TomlValue → Option String
  | .str s => some s
  | _ => none

/-- One of the names `choices` with their meanings: given as the name itself, or as a table
with the name as its only member, bound to an empty table or array. -/
def asChoice (choices : List (String × α)) : TomlValue → Option α
  | .str s => lookupChoice s
  | .table [(s, .table [])] => lookupChoice s
  | .table [(s, .arr [])] => lookupChoice s
  | _ => none
where
  /-- The meaning of a name. -/
  lookupChoice (s : String) : Option α := (choices.find? (·.1 == s)).map (·.2)

end ShipSlap.Toml
