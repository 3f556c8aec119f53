import ShipSlap.Toml.Value
/-!
The scalars and keys of TOML 1.0: basic and literal strings, each on one line or over several,
integers (decimal, hexadecimal, octal, binary, with underscores only between digits), floating
point numbers, booleans, dates and times, and keys (bare, quoted, dotted). Each reader takes the
text from where the item starts and gives the item and the text after it, or `none` where the
text is not such an item.
-/
namespace ShipSlap.Toml

/-- A space or a tab. -/
def isSpace (c : Char) : Bool := c = ' ' || c = '\t'

/-- Drops spaces and tabs. -/
def skipSpaces (cs : List Char) : List Char := cs.dropWhile isSpace

/-- A character that may not stand as itself in a string or comment: a control other than the
tab, or delete. -/
def isForbiddenControl (c : Char) : Bool :=
  (c.toNat < 0x20 && c ≠ '\t') || c.toNat = 0x7f

/-- A character of a bare key: an ASCII letter or digit, `_` or `-`. -/
def isBareKeyChar (c : Char) : Bool := c.isAlphanum || c = '_' || c = '-'

/-- The value of a digit in a base up to 16. -/
def digitValue (base : Nat) (c : Char) : Option Nat :=
  let d :=
    if '0' ≤ c ∧ c ≤ '9' then some (c.toNat - 48)
    else if 'a' ≤ c ∧ c ≤ 'f' then some (c.toNat - 87)
    else if 'A' ≤ c ∧ c ≤ 'F' then some (c.toNat - 55)
    else none
  d.bind fun v => if v < base then some v else none

/-- The value of hexadecimal digits that name a Unicode scalar value. -/
def escapedScalar? (ds : List Char) : Option Char := do
  let n ← ds.foldlM (fun acc c => (digitValue 16 c).map (acc * 16 + ·)) 0
  if n.isValidChar then some (Char.ofNat n) else none

/-- The character of a one-letter escape. -/
def simpleEscape? : Char → Option Char
  | 'b' => some (Char.ofNat 8)
  | 't' => some '\t'
  | 'n' => some '\n'
  | 'f' => some (Char.ofNat 12)
  | 'r' => some '\r'
  | '"' => some '"'
  | '\\' => some '\\'
  | _ => none

/-- Puts a character in front of a read text. -/
def consRead (c : Char) : Option (List Char × List Char) → Option (List Char × List Char)
  | some (s, r) => some (c :: s, r)
  | none => none

/-- A basic string after its opening quote, up to its closing quote. -/
def basicString : List Char → Option (List Char × List Char)
  | [] => none
  | '"' :: rest => some ([], rest)
  | '\\' :: 'u' :: a :: b :: c :: d :: rest =>
    match escapedScalar? [a, b, c, d] with
    | some ch => consRead ch (basicString rest)
    | none => none
  | '\\' :: 'U' :: a :: b :: c :: d :: e :: f :: g :: h :: rest =>
    match escapedScalar? [a, b, c, d, e, f, g, h] with
    | some ch => consRead ch (basicString rest)
    | none => none
  | '\\' :: e :: rest =>
    match simpleEscape? e with
    | some ch => consRead ch (basicString rest)
    | none => none
  | c :: rest => if isForbiddenControl c then none else consRead c (basicString rest)

/-- A literal string after its opening apostrophe, up to the closing one; nothing is escaped. -/
def literalString : List Char → Option (List Char × List Char)
  | [] => none
  | '\'' :: rest => some ([], rest)
  | c :: rest => if isForbiddenControl c then none else consRead c (literalString rest)

/-- Whether a backslash here ends its line: only spaces and tabs, then a line break. -/
def endsLine (cs : List Char) : Bool :=
  match skipSpaces cs with
  | '\n' :: _ => true
  | '\r' :: '\n' :: _ => true
  | _ => false

/-- A multi-line basic string after its opening quotes, up to the closing ones (one or two
quotes may stand just before them). `trimming` says that a backslash ended the line, so that
blanks and line breaks are dropped up to the next other character. -/
def multiBasicString (trimming : Bool) (cs : List Char) : Option (List Char × List Char) :=
  match cs with
  | [] => none
  | '"' :: '"' :: '"' :: '"' :: '"' :: rest => some (['"', '"'], rest)
  | '"' :: '"' :: '"' :: '"' :: rest => some (['"'], rest)
  | '"' :: '"' :: '"' :: rest => some ([], rest)
  | '\\' :: 'u' :: a :: b :: c :: d :: rest =>
    match escapedScalar? [a, b, c, d] with
    | some ch => consRead ch (multiBasicString false rest)
    | none => none
  | '\\' :: 'U' :: a :: b :: c :: d :: e :: f :: g :: h :: rest =>
    match escapedScalar? [a, b, c, d, e, f, g, h] with
    | some ch => consRead ch (multiBasicString false rest)
    | none => none
  | '\\' :: e :: more =>
    match simpleEscape? e with
    | some ch => consRead ch (multiBasicString false more)
    | none => if endsLine (e :: more) then multiBasicString true (e :: more) else none
  | ['\\'] => none
  | '\r' :: '\n' :: rest =>
    if trimming then multiBasicString true rest else consRead '\n' (multiBasicString false rest)
  | c :: rest =>
    if trimming && (isSpace c || c = '\n') then multiBasicString true rest
    else if c = '\n' then consRead '\n' (multiBasicString false rest)
    else if isForbiddenControl c then none
    else consRead c (multiBasicString false rest)
termination_by cs.length

/-- A multi-line literal string after its opening apostrophes, up to the closing ones. -/
def multiLiteralString : List Char → Option (List Char × List Char)
  | [] => none
  | '\'' :: '\'' :: '\'' :: '\'' :: '\'' :: rest => some (['\'', '\''], rest)
  | '\'' :: '\'' :: '\'' :: '\'' :: rest => some (['\''], rest)
  | '\'' :: '\'' :: '\'' :: rest => some ([], rest)
  | '\r' :: '\n' :: rest => consRead '\n' (multiLiteralString rest)
  | c :: rest =>
    if c = '\n' then consRead '\n' (multiLiteralString rest)
    else if isForbiddenControl c then none
    else consRead c (multiLiteralString rest)

/-- Drops the line break that may follow the opening quotes of a multi-line string. -/
def dropOpeningBreak : List Char → List Char
  | '\n' :: rest => rest
  | '\r' :: '\n' :: rest => rest
  | cs => cs

/-- A string of any of the four kinds, from its opening quote. -/
def readString : List Char → Option (String × List Char)
  | '"' :: '"' :: '"' :: rest =>
    (multiBasicString false (dropOpeningBreak rest)).map fun (s, r) => (String.ofList s, r)
  | '"' :: rest => (basicString rest).map fun (s, r) => (String.ofList s, r)
  | '\'' :: '\'' :: '\'' :: rest =>
    (multiLiteralString (dropOpeningBreak rest)).map fun (s, r) => (String.ofList s, r)
  | '\'' :: rest => (literalString rest).map fun (s, r) => (String.ofList s, r)
  | _ => none

/-- Digits of a base with underscores only between two digits; at least one digit. -/
def isGrouped (base : Nat) (cs : List Char) : Bool :=
  let isDigit := fun c => (digitValue base c).isSome
  match cs.head?, cs.getLast? with
  | some a, some z =>
    isDigit a && isDigit z && cs.all (fun c => isDigit c || c = '_') &&
      !(cs.zip cs.tail).any (fun (a, b) => a = '_' && b = '_')
  | _, _ => false

/-- The value of grouped digits. -/
def groupedValue (base : Nat) (cs : List Char) : Nat :=
  cs.foldl (fun acc c => match digitValue base c with
    | some d => acc * base + d
    | none => acc) 0

/-- Splits off an optional sign: whether it is a minus, and the rest. -/
def splitSign : List Char → Bool × List Char
  | '+' :: rest => (false, rest)
  | '-' :: rest => (true, rest)
  | cs => (false, cs)

/-- Decimal digits without a superfluous leading zero. -/
def isDecimalInteger (cs : List Char) : Bool :=
  cs = ['0'] || (cs.head? ≠ some '0' && isGrouped 10 cs)

/-- An integer: hexadecimal, octal or binary after `0x`, `0o`, `0b`, or signed decimal; it must
fit 64 bits. -/
def readInteger (tok : List Char) : Option Int :=
  let v : Option Int := match tok with
    | '0' :: 'x' :: ds => if isGrouped 16 ds then some (groupedValue 16 ds) else none
    | '0' :: 'o' :: ds => if isGrouped 8 ds then some (groupedValue 8 ds) else none
    | '0' :: 'b' :: ds => if isGrouped 2 ds then some (groupedValue 2 ds) else none
    | _ =>
      let (neg, body) := splitSign tok
      if isDecimalInteger body then
        some (if neg then -(groupedValue 10 body : Int) else groupedValue 10 body)
      else none
  v.bind fun i => if -Int.ofNat (Nat.pow 2 63) ≤ i ∧ i < Int.ofNat (Nat.pow 2 63) then some i else none

/-- An exponent after its `e`: an optional sign, then grouped digits. -/
def isExponent (cs : List Char) : Bool :=
  isGrouped 10 (splitSign cs).2

/-- A floating point number: `inf` or `nan` with an optional sign, or a decimal integer part
followed by a fraction, an exponent, or both. -/
def isFloat (tok : List Char) : Bool :=
  let body := (splitSign tok).2
  if body = ['i', 'n', 'f'] || body = ['n', 'a', 'n'] then true
  else
    let intPart := body.takeWhile (fun c => c.isDigit || c = '_')
    let rest := body.drop intPart.length
    isDecimalInteger intPart &&
      match rest with
      | '.' :: more =>
        let frac := more.takeWhile (fun c => c.isDigit || c = '_')
        isGrouped 10 frac &&
          match more.drop frac.length with
          | [] => true
          | e :: ex => (e = 'e' || e = 'E') && isExponent ex
      | e :: ex => (e = 'e' || e = 'E') && isExponent ex
      | [] => false

/-- The number that exactly `n` decimal digits spell. -/
def fixedDigits (n : Nat) (cs : List Char) : Option Nat :=
  if cs.length = n && cs.all Char.isDigit then some (groupedValue 10 cs) else none

/-- A leap year of the Gregorian calendar: divisible by 4, and by 400 if by 100. -/
def isLeapYear (y : Nat) : Bool :=
  y % 4 = 0 && (y % 100 ≠ 0 || y % 400 = 0)

/-- The number of days of month `m` (from 1 to 12) in year `y`. -/
def daysInMonth (y m : Nat) : Nat :=
  if m = 2 then (if isLeapYear y then 29 else 28)
  else if m = 4 || m = 6 || m = 9 || m = 11 then 30
  else 31

/-- A date `YYYY-MM-DD` of the calendar: a month from 1 to 12 and a day of that month. -/
def isDate (cs : List Char) : Bool :=
  match fixedDigits 4 (cs.take 4), cs.drop 4 with
  | some y, '-' :: m1 :: m2 :: '-' :: d1 :: d2 :: [] =>
    match fixedDigits 2 [m1, m2], fixedDigits 2 [d1, d2] with
    | some m, some d => 1 ≤ m && m ≤ 12 && 1 ≤ d && d ≤ daysInMonth y m
    | _, _ => false
  | _, _ => false

/-- A time `HH:MM:SS` with an optional fraction of a second. -/
def isTime (cs : List Char) : Bool :=
  match cs with
  | h1 :: h2 :: ':' :: m1 :: m2 :: ':' :: s1 :: s2 :: frac =>
    match fixedDigits 2 [h1, h2], fixedDigits 2 [m1, m2], fixedDigits 2 [s1, s2] with
    | some h, some m, some s =>
      h ≤ 23 && m ≤ 59 && s ≤ 60 &&
        match frac with
        | [] => true
        | '.' :: ds => !ds.isEmpty && ds.all Char.isDigit
        | _ => false
    | _, _, _ => false
  | _ => false

/-- A time zone offset: `Z`, or a sign and `HH:MM`. -/
def isOffset (cs : List Char) : Bool :=
  match cs with
  | ['Z'] | ['z'] => true
  | s :: h1 :: h2 :: ':' :: m1 :: m2 :: [] =>
    (s = '+' || s = '-') &&
      match fixedDigits 2 [h1, h2], fixedDigits 2 [m1, m2] with
      | some h, some m => h ≤ 23 && m ≤ 59
      | _, _ => false
  | _ => false

/-- A time, possibly followed by a time zone offset. -/
def isTimeWithOffset (cs : List Char) : Bool :=
  isTime cs ||
    (List.range (cs.length + 1)).any fun i => isTime (cs.take i) && isOffset (cs.drop i)

/-- A local date, a local time, or a date and time (separated by `T` or a space) with an
optional offset. -/
def isDatetime (tok : List Char) : Bool :=
  isDate tok || isTime tok ||
    (isDate (tok.take 10) &&
      match tok.drop 10 with
      | sep :: time => (sep = 'T' || sep = 't' || sep = ' ') && isTimeWithOffset time
      | [] => false)

/-- A character that may stand in a number or a date. -/
def isTokenChar (c : Char) : Bool :=
  c.isAlphanum || c = '_' || c = '+' || c = '-' || c = '.' || c = ':'

/-- A number, a date or time, or a boolean, from where it starts. -/
def readAtom (cs : List Char) : Option (TomlValue × List Char) :=
  let tok := cs.takeWhile isTokenChar
  let rest := cs.drop tok.length
  let (tok, rest) := match rest with
    | ' ' :: d :: more =>
      if isDate tok && d.isDigit then
        let time := (d :: more).takeWhile isTokenChar
        (tok ++ ' ' :: time, (d :: more).drop time.length)
      else (tok, rest)
    | _ => (tok, rest)
  if tok = ['t', 'r', 'u', 'e'] then some (.bool true, rest)
  else if tok = ['f', 'a', 'l', 's', 'e'] then some (.bool false, rest)
  else if isDatetime tok then some (.datetime (String.ofList tok), rest)
  else match readInteger tok with
    | some i => some (.int i, rest)
    | none => if isFloat tok then some (.float (String.ofList tok), rest) else none

/-- One key: bare, or a basic or literal string on one line. -/
def simpleKey : List Char → Option (String × List Char)
  | '"' :: rest => (basicString rest).map fun (s, r) => (String.ofList s, r)
  | '\'' :: rest => (literalString rest).map fun (s, r) => (String.ofList s, r)
  | cs =>
    let k := cs.takeWhile isBareKeyChar
    if k.isEmpty then none else some (String.ofList k, cs.drop k.length)

/-- A dotted key: simple keys joined by dots, with blanks allowed around the dots. -/
def dottedKey : Nat → List Char → Option (List String × List Char)
  | 0, _ => none
  | fuel + 1, cs => do
    let (k, rest) ← simpleKey (skipSpaces cs)
    match skipSpaces rest with
    | '.' :: more =>
      let (ks, after) ← dottedKey fuel more
      some (k :: ks, after)
    | _ => some ([k], rest)

end ShipSlap.Toml
