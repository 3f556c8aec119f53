import ShipSlap.Idna.Mapping
import ShipSlap.Idna.Punycode
import ShipSlap.Text.Bidi
import ShipSlap.Text.Joining
import ShipSlap.Text.Marks
import ShipSlap.Text.Normalization
/-!
The ASCII form of a domain name, as a web address needs it (Unicode Technical Standard 46,
nontransitional, with the bidirectional and joiner checks and without the hyphen and length
checks). Each character is mapped by the table and the result brought to normalization form C;
it is then cut into labels at dots. A label that begins with `xn--` must be Punycode for a
label of non-ASCII characters that are valid as they stand and already in normalization form C;
no label may begin with a combining mark, a zero-width joiner or non-joiner must stand where
the script joins, and a name with right-to-left characters must follow the bidirectional rule
of RFC 5893 in each label. Characters that a host may not hold are refused as well. Labels with
non-ASCII characters are then written in Punycode.
-/
namespace ShipSlap.Idna

open ShipSlap.Text

/-- The ASCII characters a host may not hold: controls, the space, delete, and
`# % / : < > ? @ [ \ ] ^ |`. -/
def isForbiddenInHost (c : Char) : Bool :=
  c.toNat ≤ 0x20 || c.toNat = 0x7f || "#%/:<>?@[\\]^|".toList.contains c

/-- Maps each character by the table; `none` if one of them is disallowed. -/
def mapChars : List Char → Option (List Char)
  | [] => some []
  | c :: rest =>
    match status c, mapChars rest with
    | .disallowed, _ => none
    | _, none => none
    | .valid, some r => some (c :: r)
    | .deviation, some r => some (c :: r)
    | .ignored, some r => some r
    | .mapped image, some r => some (image ++ r)

/-- A label of ASCII characters only. -/
def isAscii (label : List Char) : Bool :=
  label.all (fun c => c.toNat < 128)

/-- A character that a label may hold as it stands: valid, or a deviation. -/
def isKept (c : Char) : Bool :=
  match status c with
  | .valid | .deviation => true
  | _ => false

/-- The characters of a label as the name means them: a label `xn--…` is decoded from
Punycode, which must succeed and give characters that are not all ASCII, all kept as they
stand, and in normalization form C; any other label is itself. -/
def labelText? (label : List Char) : Option (List Char) :=
  match label with
  | 'x' :: 'n' :: '-' :: '-' :: code =>
    if !isAscii code then none
    else match Punycode.decode? code with
      | some text =>
        if isAscii text || !text.all isKept || nfc text != text then none else some text
      | none => none
  | _ => some label

/-- Whether the characters before a zero-width non-joiner (nearest first) end in one that
joins to the left, past any transparent ones. -/
def joinsFromBefore : List Char → Bool
  | [] => false
  | c :: rest =>
    match joiningType c with
    | .transparent => joinsFromBefore rest
    | .leftJoining | .dualJoining => true
    | _ => false

/-- Whether the characters after a zero-width non-joiner begin with one that joins to the
right, past any transparent ones. -/
def joinsAfter : List Char → Bool
  | [] => false
  | c :: rest =>
    match joiningType c with
    | .transparent => joinsAfter rest
    | .rightJoining | .dualJoining => true
    | _ => false

/-- The joiner rule, with `before` the characters already passed (nearest first): a zero-width
joiner must follow a virama; a zero-width non-joiner must follow a virama or stand between a
character that joins towards it and one that joins back. -/
def joinersFit (before : List Char) : List Char → Bool
  | [] => true
  | c :: rest =>
    let afterVirama := match before with
      | b :: _ => isVirama b
      | [] => false
    let fits :=
      if c.toNat = 0x200D then afterVirama
      else if c.toNat = 0x200C then afterVirama || (joinsFromBefore before && joinsAfter rest)
      else true
    fits && joinersFit (c :: before) rest

/-- A label that may stand in a name: it does not begin with a combining mark, and its
joiners fit. -/
def labelFits (text : List Char) : Bool :=
  (match text with
    | c :: _ => !isMark c
    | [] => true) && joinersFit [] text

/-- A character that makes a name right-to-left: a right-to-left or Arabic letter, or an
Arabic digit. -/
def isRightToLeft (c : Char) : Bool :=
  match bidiClass c with
  | .rightToLeft | .arabicLetter | .arabicNumber => true
  | _ => false

/-- Drops the nonspacing marks at the end of a label, given reversed. -/
def dropTrailingMarks : List BidiClass → List BidiClass
  | [] => []
  | k :: rest => if k = .nonspacingMark then dropTrailingMarks rest else k :: rest

/-- The bidirectional rule of RFC 5893 for one label of a right-to-left name. A label that
begins with a left-to-right character holds only left-to-right characters, digits, neutral
separators and marks, and ends (before its marks) in a left-to-right character or a European
digit. A label that begins with a right-to-left character holds no left-to-right character,
does not mix European and Arabic digits, and ends in a right-to-left character or a digit.
An empty label passes. -/
def bidiFits (text : List Char) : Bool :=
  let classes := text.map bidiClass
  let last := (dropTrailingMarks classes.reverse).head?
  match classes with
  | [] => true
  | first :: _ =>
    if first = .leftToRight then
      classes.all (fun k => k ∈ [.leftToRight, .europeanNumber, .europeanSeparator,
          .commonSeparator, .europeanTerminator, .otherNeutral, .boundaryNeutral,
          .nonspacingMark]) &&
        (last = some .leftToRight || last = some .europeanNumber)
    else if first = .rightToLeft || first = .arabicLetter then
      classes.all (fun k => k ∈ [.rightToLeft, .arabicLetter, .arabicNumber, .europeanNumber,
          .europeanSeparator, .commonSeparator, .europeanTerminator, .otherNeutral,
          .boundaryNeutral, .nonspacingMark]) &&
        (last = some .rightToLeft || last = some .arabicLetter || last = some .europeanNumber ||
          last = some .arabicNumber) &&
        !(classes.contains .europeanNumber && classes.contains .arabicNumber)
    else false

/-- The ASCII form of a label: itself if it is ASCII, else `xn--` and its Punycode. -/
def asciiLabel? (text : List Char) : Option (List Char) :=
  if isAscii text then some text
  else (Punycode.encode? text).map (['x', 'n', '-', '-'] ++ ·)

/-- The ASCII form of a domain name, or `none` if the name is not valid. -/
def toAscii? (domain : String) : Option String := do
  let mapped := nfc (← mapChars domain.toList)
  if mapped.any isForbiddenInHost then none
  let labels := mapped.splitOn '.'
  let texts ← labels.mapM labelText?
  if !texts.all labelFits then none
  if texts.any (·.any isRightToLeft) && !texts.all bidiFits then none
  let ascii ← texts.mapM asciiLabel?
  return String.intercalate "." (ascii.map String.ofList)

end ShipSlap.Idna
