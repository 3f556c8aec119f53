import ShipSlap.Name.Error
/-!
The grammar of topic and service names: `tm_` or `ls_`, then one or more words of lowercase
ASCII letters joined by single underscores, at most 50 bytes in all.
-/
namespace ShipSlap.Name

/-- The longest name, in UTF-8 bytes. -/
def maxLength : Nat := 50

/-- A lowercase ASCII letter. -/
def isLower (c : Char) : Bool := 'a' ≤ c && c ≤ 'z'

/-- Words of lowercase letters joined by single underscores, read letter by letter;
`afterLetter` says whether the last character read was a letter. -/
def isWordsFrom : Bool → List Char → Bool
  | afterLetter, [] => afterLetter
  | afterLetter, c :: rest =>
    if isLower c then isWordsFrom true rest
    else if c = '_' ∧ afterLetter then isWordsFrom false rest
    else false

/-- Words of lowercase letters joined by single underscores: `[a-z]+(_[a-z]+)*`. -/
def isWords (cs : List Char) : Bool :=
  isWordsFrom false cs

/-- A name in the grammar `(tm_|ls_)[a-z]+(_[a-z]+)*`. -/
def Grammatical (name : String) : Prop :=
  match name.toList with
  | 't' :: 'm' :: '_' :: rest => isWords rest = true
  | 'l' :: 's' :: '_' :: rest => isWords rest = true
  | _ => False

instance (name : String) : Decidable (Grammatical name) := by
  unfold Grammatical; split <;> infer_instance

/-- Checks a topic or service name: nonempty, at most 50 bytes, in the grammar. -/
def validate (name : String) : Except NameError Unit :=
  if name.isEmpty then .error .emptyName
  else if maxLength < name.utf8ByteSize then .error (.nameTooLong name.utf8ByteSize maxLength)
  else if Grammatical name then .ok ()
  else .error (.invalidNameFormat name)

/-- Whether a name is a valid topic or service name. -/
def isValid (name : String) : Bool :=
  (validate name).isOk

end ShipSlap.Name
