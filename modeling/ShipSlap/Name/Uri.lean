import ShipSlap.Decimal.Read
import ShipSlap.Name.Error
import ShipSlap.Text.Blank
import ShipSlap.Text.Digits
import ShipSlap.Url.Authority
import ShipSlap.Url.Form
/-!
Which URIs a host may advertise. The scheme is found by the literal text the URI starts with.
The `https` family (plain, with authentication, with authentication and a file service, with
an off-chain script service, and round-trip) must have a host other than `localhost` and a
path, as written, that is empty or `/`. A `wss` URI must have a host other than `localhost`.
A `js8c` radio URI carries its place and band in its query: latitude within ±90, longitude
within ±180, and a positive frequency and radius, which may carry a unit after the number.
-/
namespace ShipSlap.Name

open ShipSlap.Url

/-- The URI schemes under which a service may be advertised. -/
inductive UriScheme where
  | https
  | httpsBsvAuth
  | httpsBsvAuthSmf
  | httpsBsvAuthScryptOffchain
  | httpsRtt
  | wss
  | js8cBsvAuthSmf
  deriving Repr, DecidableEq

/-- The schemes in the order they are tried. -/
def UriScheme.all : List UriScheme :=
  [.https, .httpsBsvAuth, .httpsBsvAuthSmf, .httpsBsvAuthScryptOffchain, .httpsRtt, .wss,
    .js8cBsvAuthSmf]

/-- The text a URI of the scheme starts with. -/
def UriScheme.opening : UriScheme → String
  | .https => "https://"
  | .httpsBsvAuth => "https+bsvauth://"
  | .httpsBsvAuthSmf => "https+bsvauth+smf://"
  | .httpsBsvAuthScryptOffchain => "https+bsvauth+scrypt-offchain://"
  | .httpsRtt => "https+rtt://"
  | .wss => "wss://"
  | .js8cBsvAuthSmf => "js8c+bsvauth+smf:"

/-- The first scheme, in the order of `UriScheme.all`, whose opening the URI starts with. -/
def UriScheme.detect? (uri : String) : Option UriScheme :=
  UriScheme.all.find? fun s => s.opening.toList.isPrefixOf uri.toList

/-- The path of a URI as written, from the text after its scheme: the part before any `?` or
`#`, from its first `/` or `\` on. -/
def rawPath (afterScheme : String) : String :=
  let beforeQuery := afterScheme.toList.takeWhile (fun c => c ≠ '?' ∧ c ≠ '#')
  String.ofList (beforeQuery.dropWhile (fun c => c ≠ '/' ∧ c ≠ '\\'))

/-- Whether two texts are equal when ASCII letters are compared without case. -/
def equalsIgnoringCase (a b : String) : Bool :=
  a.toList.map Char.toLower = b.toList.map Char.toLower

/-- Reads the authority of an address; an address that cannot be read is malformed. -/
def readAuthority (afterScheme : String) : Except NameError Authority :=
  (Authority.parse 443 afterScheme).mapError fun e => .malformedUri e.message

/-- The host must be present and must not be `localhost`. -/
def checkHost (a : Authority) : Except NameError Unit :=
  if a.host.text.isEmpty then .error .missingHost
  else if equalsIgnoringCase a.host.text "localhost" then .error .localhostNotAllowed
  else .ok ()

/-- Digits of any script, as many as stand at the front. -/
def takeAnyDigits (cs : List Char) : List Char × List Char :=
  (cs.takeWhile Text.isDecimalDigit, cs.dropWhile Text.isDecimalDigit)

/-- The number at the front of a text: an optional sign, digits with an optional point and
digits after it or a point and digits, and an optional exponent; digits of any script count.
`none` if the text does not start with one. -/
def leadingNumber (cs : List Char) : Option (List Char) :=
  let (sign, body) := match cs with
    | c :: rest => if c = '+' ∨ c = '-' then ([c], rest) else ([], cs)
    | [] => ([], [])
  let (intDigits, afterInt) := takeAnyDigits body
  let mantissa? : Option (List Char × List Char) :=
    if intDigits.isEmpty then
      match afterInt with
      | '.' :: rest =>
        let (frac, after) := takeAnyDigits rest
        if frac.isEmpty then none else some ('.' :: frac, after)
      | _ => none
    else
      match afterInt with
      | '.' :: rest =>
        let (frac, after) := takeAnyDigits rest
        some (intDigits ++ '.' :: frac, after)
      | _ => some (intDigits, afterInt)
  mantissa?.map fun (mantissa, after) =>
    let exponent := match after with
      | e :: rest =>
        if e = 'e' ∨ e = 'E' then
          let (expSign, expBody) := match rest with
            | s :: more => if s = '+' ∨ s = '-' then ([s], more) else ([], rest)
            | [] => ([], [])
          let (digits, _) := takeAnyDigits expBody
          if digits.isEmpty then [] else e :: expSign ++ digits
        else []
      | [] => []
    sign ++ mantissa ++ exponent

/-- A coordinate: a number (blanks around it allowed) within `±bound`. -/
def checkCoordinate (name raw : String) (bound : Nat) : Except NameError Unit :=
  match Decimal.readBinary64 (Text.trim raw) with
  | none => .error (.invalidNumber name raw)
  | some v =>
    let b := Binary64.ofNat bound
    if !v.isFinite || v.lt b.neg || b.lt v then .error (.outOfRange name v) else .ok ()

/-- A positive quantity: a number at the front (blanks around the text allowed), above zero;
whatever follows the number, such as a unit, is not read. -/
def checkPositiveQuantity (name raw : String) : Except NameError Unit :=
  match (leadingNumber (Text.trim raw).toList).bind (Decimal.readBinary64 ∘ String.ofList) with
  | none => .error (.invalidNumber name raw)
  | some v =>
    if !v.isFinite || v.le (Binary64.zero false) then .error (.outOfRange name v) else .ok ()

/-- A required query parameter: the first value given for it, which must not be empty. -/
def requireParameter (pairs : List (String × String)) (name : String) :
    Except NameError String :=
  match formLookup pairs name with
  | some v => if v.isEmpty then .error (.missingParameter name) else .ok v
  | none => .error (.missingParameter name)

/-- The query of a radio URI: `lat`, `long`, `freq` and `radius`, all present, then each in
range. -/
def checkRadioQuery (afterScheme : String) : Except NameError Unit := do
  let query ← match afterScheme.toList.dropWhile (· ≠ '?') with
    | _ :: rest => pure (String.ofList rest)
    | [] => throw (.malformedUri "missing query string")
  let pairs := formPairs query
  let lat ← requireParameter pairs "lat"
  let long ← requireParameter pairs "long"
  let freq ← requireParameter pairs "freq"
  let radius ← requireParameter pairs "radius"
  checkCoordinate "lat" lat 90
  checkCoordinate "long" long 180
  checkPositiveQuantity "freq" freq
  checkPositiveQuantity "radius" radius

/-- Checks a URI and gives the scheme under which it may be advertised. -/
def validateUri (uri : String) : Except NameError UriScheme := do
  if (Text.trim uri).isEmpty then throw .emptyUri
  let scheme ← match UriScheme.detect? uri with
    | some s => pure s
    | none => throw (.unsupportedScheme (String.ofList (uri.toList.takeWhile (· ≠ ':'))))
  let rest := String.ofList (uri.toList.drop scheme.opening.length)
  match scheme with
  | .wss => checkHost (← readAuthority (String.ofList (uri.toList.drop 4)))
  | .js8cBsvAuthSmf => checkRadioQuery rest
  | _ =>
    checkHost (← readAuthority ("//" ++ rest))
    let path := rawPath rest
    if !(path.isEmpty || path = "/") then throw (.pathNotAllowed path)
  return scheme

/-- Whether a URI may be advertised. -/
def isAdvertisable (uri : String) : Bool :=
  (validateUri uri).isOk

end ShipSlap.Name
