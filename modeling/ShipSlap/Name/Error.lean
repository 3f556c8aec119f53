import ShipSlap.Decimal.Format
/-!
Why an advertised name or URI is refused.
-/
namespace ShipSlap

/-- Why a topic or service name, or an advertisable URI, is refused. -/
inductive NameError where
  | emptyName
  | nameTooLong (len max : Nat)
  | invalidNameFormat (name : String)
  | emptyUri
  | unsupportedScheme (scheme : String)
  | malformedUri (reason : String)
  | missingHost
  | localhostNotAllowed
  | pathNotAllowed (path : String)
  | missingParameter (name : String)
  | invalidNumber (name value : String)
  | outOfRange (name : String) (value : Binary64)
  deriving Repr, DecidableEq

/-- The wording of a name or URI error; numbers out of range are written in the plain decimal
style. -/
def NameError.message : NameError → String
  | .emptyName => "Name is empty"
  | .nameTooLong len max =>
    "Name too long: " ++ toString len ++ " characters (max: " ++ toString max ++ ")"
  | .invalidNameFormat name => "Name does not match the topic/service grammar: " ++ name
  | .emptyUri => "URI is empty"
  | .unsupportedScheme s => "Unsupported URI scheme: " ++ s
  | .malformedUri reason => "Malformed URI: " ++ reason
  | .missingHost => "URI has no hostname"
  | .localhostNotAllowed => "localhost may not be advertised"
  | .pathNotAllowed path => "URI path must be empty or '/', got " ++ path
  | .missingParameter name => "Missing query parameter: " ++ name
  | .invalidNumber name value => "Parameter " ++ name ++ " is not a number: " ++ value
  | .outOfRange name value =>
    "Parameter " ++ name ++ " out of range: " ++ DecimalStyle.plain.format value

end ShipSlap
