import ShipSlap.Regex.Ast
import ShipSlap.Text.Alphanumeric
import ShipSlap.Text.Blank
/-!
Reading a pattern into its syntax tree.

The reader walks the pattern once, left to right. Open groups wait on a stack with what stood
before them; open bracketed classes and their pending set operations wait on a second stack
while a class is read. In whitespace mode (the flag `x`) blanks and `#` comments between
tokens are skipped. Some of the reader's look-aheads ignore whitespace mode, as noted where
they occur, and so decide what a pattern means as written.

Escapes: meta characters and ASCII punctuation stand for themselves; `\a \f \t \n \r \v` are
controls; `\x`, `\u` and `\U` take two, four or eight hexadecimal digits or a braced code point;
`\pL`, `\p{…}` and their `\P` negations are Unicode classes; `\d \s \w` and negations are the
usual classes; `\A \z \b \B \< \>` and `\b{start}`, `\b{end}`, `\b{start-half}`,
`\b{end-half}` are assertions. Digits after a backslash (back-references) and letters with no
meaning are errors.
-/
namespace ShipSlap.Regex

open ShipSlap.Text

/-- Drops blanks and comments: a comment runs from `#` to the end of its line. -/
def skipBlanks : Bool → List Char → List Char
  | _, [] => []
  | inComment, c :: rest =>
    if inComment then skipBlanks (c != '\n') rest
    else if isBlank c then skipBlanks false rest
    else if c = '#' then skipBlanks true rest
    else c :: rest

/-- Drops what whitespace mode skips, when it is on. -/
def skipSpace (ws : Bool) (cs : List Char) : List Char :=
  if ws then skipBlanks false cs else cs

theorem skipBlanks_length_le (b : Bool) (cs : List Char) :
    (skipBlanks b cs).length ≤ cs.length := by
  induction cs generalizing b with
  | nil => simp only [skipBlanks, List.length_nil, Nat.le_refl]
  | cons c rest ih =>
    simp only [skipBlanks]
    split
    · have := ih (c != '\n'); simp only [List.length_cons]; omega
    · split
      · have := ih false; simp only [List.length_cons]; omega
      · split
        · have := ih true; simp only [List.length_cons]; omega
        · exact Nat.le_refl _

theorem skipSpace_length_le (ws : Bool) (cs : List Char) :
    (skipSpace ws cs).length ≤ cs.length := by
  unfold skipSpace
  split
  · exact skipBlanks_length_le false cs
  · exact Nat.le_refl _

/-- The first character after the current one that is not skipped in whitespace mode. The
look-ahead stops at the first character after `#` that is not blank rather than at the end of
the comment, and when it finds nothing it gives the very next character. -/
def peekSpace (ws : Bool) (after : List Char) : Option Char :=
  if !ws then after.head?
  else match scan after false with
    | some c => some c
    | none => after.head?
where
  /-- The first character that is neither blank nor the `#` opening a comment. -/
  scan : List Char → Bool → Option Char
    | [], _ => none
    | c :: cs, inComment =>
      if isBlank c then scan cs inComment
      else if !inComment && c = '#' then scan cs true
      else some c

/-- Characters that stand for themselves after a backslash and have a meaning without one. -/
def isMetaChar (c : Char) : Bool :=
  "\\.+*?()|[]\x7b\x7d^$#&-~".toList.contains c

/-- Characters that may follow a backslash and then stand for themselves: meta characters and
ASCII characters other than letters, digits, `<` and `>`. -/
def isEscapeable (c : Char) : Bool :=
  isMetaChar c ||
    (c.toNat < 128 && !c.isAlphanum && c != '<' && c != '>')

/-- The value of a hexadecimal digit. -/
def hexDigit? (c : Char) : Option Nat :=
  if '0' ≤ c ∧ c ≤ '9' then some (c.toNat - 48)
  else if 'a' ≤ c ∧ c ≤ 'f' then some (c.toNat - 87)
  else if 'A' ≤ c ∧ c ≤ 'F' then some (c.toNat - 55)
  else none

/-- The character of a code point, if it is a Unicode scalar value. -/
def scalar? (n : Nat) : Option Char :=
  if n < 0x110000 ∧ ¬(0xD800 ≤ n ∧ n < 0xE000) then some (Char.ofNat n) else none

/-- What an escape or a single character outside a class reads to. -/
inductive Primitive where
  | literal (lit : Literal)
  | assertion (a : Assertion)
  | dot
  | unicode (cls : UnicodeClass)
  | perl (cls : PerlClass)

/-- A primitive as an expression. -/
def Primitive.toAst : Primitive → Ast
  | .literal lit => .literal lit
  | .assertion a => .assertion a
  | .dot => .dot
  | .unicode cls => .unicodeClass cls
  | .perl cls => .perlClass cls

/-- A primitive as a class item; assertions have no place in a class. -/
def Primitive.toClassItem : Primitive → Except SyntaxError ClassItem
  | .literal lit => .ok (.literal lit)
  | .unicode cls => .ok (.unicode cls)
  | .perl cls => .ok (.perl cls)
  | _ => .error .classEscapeInvalid

/-- A primitive as the end of a range, which must be a literal. -/
def Primitive.toLiteral : Primitive → Except SyntaxError Literal
  | .literal lit => .ok lit
  | _ => .error .classRangeLiteral

/-- Reads `n` more hexadecimal digits onto `acc`, blanks between them skipped in whitespace
mode. -/
def readHexFixed (ws : Bool) : Nat → Nat → List Char → Except SyntaxError (Char × List Char)
  | 0, acc, input =>
    match scalar? acc with
    | some c => .ok (c, input)
    | none => .error .escapeHexInvalid
  | _ + 1, _, [] => .error .escapeUnexpectedEof
  | k + 1, acc, c :: rest =>
    match hexDigit? c with
    | none => .error .escapeHexInvalidDigit
    | some d =>
      let after := skipSpace ws rest
      if k = 0 then
        match scalar? (acc * 16 + d) with
        | some ch => .ok (ch, after)
        | none => .error .escapeHexInvalid
      else if after.isEmpty then .error .escapeUnexpectedEof
      else readHexFixed ws k (acc * 16 + d) after

/-- Reads the hexadecimal digits of a braced code point after `{`, up to `}`. -/
def readHexBrace (ws : Bool) (digits : List Nat) (input : List Char) :
    Except SyntaxError (Char × List Char) :=
  match input with
  | [] => .error .escapeUnexpectedEof
  | c :: rest =>
    if c = '}' then
      if digits.isEmpty then .error .escapeHexEmpty
      else match scalar? (digits.foldr (fun d acc => acc * 16 + d) 0) with
        | some ch => .ok (ch, skipSpace ws rest)
        | none => .error .escapeHexInvalid
    else match hexDigit? c with
      | none => .error .escapeHexInvalidDigit
      | some d => readHexBrace ws (d :: digits) (skipSpace ws rest)
termination_by input.length
decreasing_by
  have := skipSpace_length_le ws rest
  simp only [List.length_cons]
  omega

/-- Reads the text of a braced Unicode class after `{`, up to `}`. -/
def readBraced (ws : Bool) (acc : List Char) (input : List Char) :
    Except SyntaxError (List Char × List Char) :=
  match input with
  | [] => .error .escapeUnexpectedEof
  | c :: rest =>
    if c = '}' then .ok (acc.reverse, rest)
    else readBraced ws (c :: acc) (skipSpace ws rest)
termination_by input.length
decreasing_by
  have := skipSpace_length_le ws rest
  simp only [List.length_cons]
  omega

/-- Splits a text at the first occurrence of `!=`. -/
def splitNotEqual : List Char → Option (List Char × List Char)
  | [] => none
  | '!' :: '=' :: rest => some ([], rest)
  | c :: rest => (splitNotEqual rest).map fun (a, b) => (c :: a, b)

/-- Splits a text at the first occurrence of a character. -/
def splitAtChar (sep : Char) (cs : List Char) : Option (List Char × List Char) :=
  match cs.span (· != sep) with
  | (before, _ :: after) => some (before, after)
  | (_, []) => none

/-- The class a braced Unicode class names: `name!=value` (which negates), `name:value`,
`name=value`, or a lone name; `!=` is looked for first, then `:`, then `=`. -/
def braceQuery (text : List Char) (negated : Bool) : UnicodeClass :=
  match splitNotEqual text with
  | some (n, v) => ⟨.namedValue (String.ofList n) (String.ofList v), !negated⟩
  | none =>
    match splitAtChar ':' text with
    | some (n, v) => ⟨.namedValue (String.ofList n) (String.ofList v), negated⟩
    | none =>
      match splitAtChar '=' text with
      | some (n, v) => ⟨.namedValue (String.ofList n) (String.ofList v), negated⟩
      | none => ⟨.named (String.ofList text), negated⟩

/-- Reads a Unicode class after `\p` (or `\P`, which negates): a braced name or one letter. -/
def readUnicodeClass (ws negated : Bool) (input : List Char) :
    Except SyntaxError (Primitive × List Char) :=
  match skipSpace ws input with
  | [] => .error .escapeUnexpectedEof
  | c :: rest =>
    if c = '{' then
      match readBraced ws [] (skipSpace ws rest) with
      | .ok (text, after) => .ok (.unicode (braceQuery text negated), after)
      | .error e => .error e
    else if c = '\\' then .error .unicodeClassInvalid
    else .ok (.unicode ⟨.oneLetter c, negated⟩, skipSpace ws rest)

/-- Characters of the name of a special word boundary. -/
def isBoundaryNameChar (c : Char) : Bool :=
  ('a' ≤ c ∧ c ≤ 'z') || ('A' ≤ c ∧ c ≤ 'Z') || c = '-'

/-- Reads the name of a special word boundary. -/
def readBoundaryName (ws : Bool) (acc : List Char) (input : List Char) : List Char × List Char :=
  match input with
  | c :: rest =>
    if isBoundaryNameChar c then readBoundaryName ws (c :: acc) (skipSpace ws rest)
    else (acc.reverse, input)
  | [] => (acc.reverse, [])
termination_by input.length
decreasing_by
  have := skipSpace_length_le ws rest
  simp only [List.length_cons]
  omega

/-- Reads what follows `\b` when a `{` follows it at once: `{start}`, `{end}`,
`{start-half}` or `{end-half}`. A brace followed by anything but a letter or `-` is left for a
counted repetition of `\b`. -/
def readWordBoundary (ws : Bool) (input : List Char) :
    Except SyntaxError (Primitive × List Char) :=
  match skipSpace ws input.tail with
  | [] => .error .specialWordOrRepetitionUnexpectedEof
  | c :: rest =>
    if !isBoundaryNameChar c then .ok (.assertion .wordBoundary, input)
    else
      match readBoundaryName ws [] (c :: rest) with
      | (name, '}' :: after) =>
        match String.ofList name with
        | "start" => .ok (.assertion .wordStart, after)
        | "end" => .ok (.assertion .wordEnd, after)
        | "start-half" => .ok (.assertion .wordStartHalf, after)
        | "end-half" => .ok (.assertion .wordEndHalf, after)
        | _ => .error .specialWordBoundaryUnrecognized
      | _ => .error .specialWordBoundaryUnclosed

/-- Reads an escape after its backslash. -/
def readEscape (ws : Bool) : List Char → Except SyntaxError (Primitive × List Char)
  | [] => .error .escapeUnexpectedEof
  | c :: rest =>
    if c.isDigit then .error .unsupportedBackreference
    else if c = 'x' || c = 'u' || c = 'U' then
      let width := if c = 'x' then 2 else if c = 'u' then 4 else 8
      let kind : LiteralKind := if c = 'x' then .byteEscape else .codeEscape
      match skipSpace ws rest with
      | [] => .error .escapeUnexpectedEof
      | d :: after =>
        if d = '{' then
          match readHexBrace ws [] (skipSpace ws after) with
          | .ok (ch, more) => .ok (.literal ⟨.codeEscape, ch⟩, more)
          | .error e => .error e
        else
          match readHexFixed ws width 0 (d :: after) with
          | .ok (ch, more) => .ok (.literal ⟨kind, ch⟩, more)
          | .error e => .error e
    else if c = 'p' || c = 'P' then readUnicodeClass ws (c = 'P') rest
    else if c = 'd' then .ok (.perl ⟨.digit, false⟩, rest)
    else if c = 's' then .ok (.perl ⟨.space, false⟩, rest)
    else if c = 'w' then .ok (.perl ⟨.word, false⟩, rest)
    else if c = 'D' then .ok (.perl ⟨.digit, true⟩, rest)
    else if c = 'S' then .ok (.perl ⟨.space, true⟩, rest)
    else if c = 'W' then .ok (.perl ⟨.word, true⟩, rest)
    else if isEscapeable c then .ok (.literal ⟨.escaped, c⟩, rest)
    else match c with
      | 'a' => .ok (.literal ⟨.special, '\x07'⟩, rest)
      | 'f' => .ok (.literal ⟨.special, '\x0c'⟩, rest)
      | 't' => .ok (.literal ⟨.special, '\t'⟩, rest)
      | 'n' => .ok (.literal ⟨.special, '\n'⟩, rest)
      | 'r' => .ok (.literal ⟨.special, '\r'⟩, rest)
      | 'v' => .ok (.literal ⟨.special, '\x0b'⟩, rest)
      | 'A' => .ok (.assertion .startText, rest)
      | 'z' => .ok (.assertion .endText, rest)
      | 'b' =>
        match rest with
        | '{' :: _ => readWordBoundary ws rest
        | _ => .ok (.assertion .wordBoundary, rest)
      | 'B' => .ok (.assertion .notWordBoundary, rest)
      | '<' => .ok (.assertion .wordStartAngle, rest)
      | '>' => .ok (.assertion .wordEndAngle, rest)
      | _ => .error .escapeUnrecognized

/-- Reads one character or escape outside a class. -/
def readPrimitive (ws : Bool) : List Char → Except SyntaxError (Primitive × List Char)
  | [] => .error .escapeUnexpectedEof
  | '\\' :: rest => readEscape ws rest
  | '.' :: rest => .ok (.dot, rest)
  | '^' :: rest => .ok (.assertion .startLine, rest)
  | '$' :: rest => .ok (.assertion .endLine, rest)
  | c :: rest => .ok (.literal ⟨.verbatim, c⟩, rest)

/-- Drops leading blanks, each followed by what whitespace mode skips. -/
def dropBlanks (ws : Bool) (input : List Char) : List Char :=
  match input with
  | c :: rest => if isBlank c then dropBlanks ws (skipSpace ws rest) else input
  | [] => []
termination_by input.length
decreasing_by
  have := skipSpace_length_le ws rest
  simp only [List.length_cons]
  omega

/-- Reads decimal digits, what whitespace mode skips allowed after each. -/
def readDigits (ws : Bool) (acc : List Char) (input : List Char) : List Char × List Char :=
  match input with
  | c :: rest =>
    if c.isDigit then readDigits ws (c :: acc) (skipSpace ws rest) else (acc.reverse, input)
  | [] => (acc.reverse, [])
termination_by input.length
decreasing_by
  have := skipSpace_length_le ws rest
  simp only [List.length_cons]
  omega

/-- Reads a count of a counted repetition: blanks (in any mode), digits, blanks. A count must
have digits and fit in 32 bits. -/
def readDecimal (ws : Bool) (input : List Char) : Except SyntaxError (Nat × List Char) :=
  let (digits, rest) := readDigits ws [] (input.dropWhile isBlank)
  if digits.isEmpty then .error .repetitionCountDecimalEmpty
  else
    let n := digits.foldl (fun v c => 10 * v + (c.toNat - 48)) 0
    if Nat.pow 2 32 ≤ n then .error .decimalInvalid else .ok (n, dropBlanks ws rest)

/-- Reads a counted repetition after `{`: `{n}`, `{n,}` or `{m,n}` with `m ≤ n`, and whether
it is greedy (a `?` after it makes it lazy). -/
def readCount (ws : Bool) (input : List Char) :
    Except SyntaxError (RepetitionRange × Bool × List Char) := do
  let input := skipSpace ws input
  if input.isEmpty then throw .repetitionCountUnclosed
  let (m, rest) ← readDecimal ws input
  let (range, rest) ← match rest with
    | ',' :: after =>
      match skipSpace ws after with
      | [] => throw .repetitionCountUnclosed
      | '}' :: more => pure (RepetitionRange.atLeast m, '}' :: more)
      | more => do
        let (n, rest2) ← readDecimal ws more
        pure (RepetitionRange.bounded m n, rest2)
    | _ => pure (RepetitionRange.exactly m, rest)
  match rest with
  | '}' :: more =>
    let (greedy, after) := match skipSpace ws more with
      | '?' :: r => (false, skipSpace ws r)
      | r => (true, r)
    match range with
    | .bounded m n => if n < m then throw .repetitionCountInvalid
    | _ => pure ()
    pure (range, greedy, after)
  | _ => throw .repetitionCountUnclosed

/-- A class that opens inside another, as a class item, if the text at `[` reads as one:
`[:name:]` or `[:^name:]` with one of the known names. Otherwise `[` opens a bracketed class. -/
def asciiClass? : List Char → Option (ClassItem × List Char)
  | '[' :: ':' :: rest =>
    if rest.isEmpty then none
    else
      let (negated, body) := match rest with
        | '^' :: b => (true, b)
        | b => (false, b)
      if negated && body.isEmpty then none
      else
        match body.dropWhile (· != ':') with
        | ':' :: ']' :: more =>
          (AsciiKind.ofName? (String.ofList (body.takeWhile (· != ':')))).map
            fun k => (.ascii k negated, more)
        | _ => none
  | _ => none

/-- Reads the start of a bracketed class after `[`: a `^` that negates it, then any number of
`-` and, if there were none, a `]`, all literal. -/
def openClass (ws : Bool) (input : List Char) :
    Except SyntaxError (Bool × List ClassItem × List Char) :=
  match skipSpace ws input with
  | [] => .error .classUnclosed
  | c :: rest =>
    let (negated, body) := if c = '^' then (true, skipSpace ws rest) else (false, c :: rest)
    if body.isEmpty then .error .classUnclosed
    else
      match dashes [] body with
      | .error e => .error e
      | .ok (items, after) =>
        match items, after with
        | [], ']' :: more =>
          let more := skipSpace ws more
          if more.isEmpty then .error .classUnclosed
          else .ok (negated, [.literal ⟨.verbatim, ']'⟩], more)
        | _, _ => .ok (negated, items, after)
where
  /-- Reads leading dashes as literals. -/
  dashes (acc : List ClassItem) (input : List Char) :
      Except SyntaxError (List ClassItem × List Char) :=
    match input with
    | '-' :: rest =>
      let after := skipSpace ws rest
      if after.isEmpty then .error .classUnclosed
      else dashes (.literal ⟨.verbatim, '-'⟩ :: acc) after
    | _ => .ok (acc, input)
  termination_by input.length
  decreasing_by
    have := skipSpace_length_le ws rest
    simp only [List.length_cons]
    omega

/-- Reads one item of a class: an escape or a character. -/
def readClassAtom (ws : Bool) : List Char → Except SyntaxError (Primitive × List Char)
  | '\\' :: rest => readEscape ws rest
  | c :: rest => .ok (.literal ⟨.verbatim, c⟩, rest)
  | [] => .error .classUnclosed

/-- Reads an item of a class or a range `a-z`. A `-` before `]` or before another `-` is not
a range. -/
def readClassRange (ws : Bool) (input : List Char) :
    Except SyntaxError (ClassItem × List Char) := do
  let (first, rest) ← readClassAtom ws input
  let rest := skipSpace ws rest
  match rest with
  | [] => throw .classUnclosed
  | c :: after =>
    if c != '-' || peekSpace ws after == some ']' || peekSpace ws after == some '-' then
      let item ← first.toClassItem
      pure (item, rest)
    else
      let after := skipSpace ws after
      if after.isEmpty then throw .classUnclosed
      let (second, more) ← readClassAtom ws after
      let lo ← first.toLiteral
      let hi ← second.toLiteral
      if hi.c < lo.c then throw .classRangeInvalid
      pure (.range lo hi, more)

/-- A bracketed class that waits while a class is read. -/
inductive ClassFrame where
  /-- an open bracket: the items of the enclosing union so far (last first), and whether the
  bracket is negated -/
  | opened (outer : List ClassItem) (negated : Bool)
  /-- a set operation waiting for its right side -/
  | pending (kind : SetOp) (lhs : ClassSet)

/-- Joins a finished class body to the set operation waiting on the stack, if one is. -/
def closeOp (frames : List ClassFrame) (rhs : ClassSet) : ClassSet × List ClassFrame :=
  match frames with
  | .pending kind lhs :: more => (.op kind lhs rhs, more)
  | _ => (rhs, frames)

/-- Starts a set operation: the union read so far, joined to any operation before it, becomes
its left side. -/
def pushOp (kind : SetOp) (frames : List ClassFrame) (union : List ClassItem) : List ClassFrame :=
  let (lhs, more) := closeOp frames (.item (ClassItem.ofUnion union.reverse))
  .pending kind lhs :: more

/-- Reads a bracketed class from its `[`: whether it is negated, its body, and what follows
its `]`. `union` holds the items of the innermost open class so far, last first. -/
def readClassLoop (ws : Bool) :
    Nat → List ClassFrame → List ClassItem → List Char →
      Except SyntaxError ((Bool × ClassSet) × List Char)
  | 0, _, _, _ => .error .classUnclosed
  | fuel + 1, frames, union, input =>
    match skipSpace ws input with
    | [] => .error .classUnclosed
    | c :: rest =>
      if c = '[' then
        match (if frames.isEmpty then none else asciiClass? (c :: rest)) with
        | some (item, after) => readClassLoop ws fuel frames (item :: union) after
        | none =>
          match openClass ws rest with
          | .ok (negated, start, after) =>
            readClassLoop ws fuel (.opened union negated :: frames) start after
          | .error e => .error e
      else if c = ']' then
        match closeOp frames (.item (ClassItem.ofUnion union.reverse)) with
        | (set, .opened outer negated :: more) =>
          if more.isEmpty then .ok ((negated, set), rest)
          else readClassLoop ws fuel more (.bracketed negated set :: outer) rest
        | _ => .error .classUnclosed
      else
        match c, rest with
        | '&', '&' :: after => readClassLoop ws fuel (pushOp .intersection frames union) [] after
        | '-', '-' :: after => readClassLoop ws fuel (pushOp .difference frames union) [] after
        | '~', '~' :: after =>
          readClassLoop ws fuel (pushOp .symmetricDifference frames union) [] after
        | _, _ =>
          match readClassRange ws (c :: rest) with
          | .ok (item, after) => readClassLoop ws fuel frames (item :: union) after
          | .error e => .error e

/-- Whether a character may stand in a group name: a letter or `_` first, then also digits,
`.`, `[` and `]`. -/
def isNameChar (first : Bool) (c : Char) : Bool :=
  if first then c = '_' || isAlphabetic c
  else c = '_' || c = '.' || c = '[' || c = ']' || isAlphanumeric c

/-- Reads a group name up to `>`. -/
def readGroupName (acc : List Char) : List Char → Except SyntaxError (String × List Char)
  | [] => .error .groupNameUnexpectedEof
  | c :: rest =>
    if c = '>' then
      if acc.isEmpty then .error .groupNameEmpty else .ok (String.ofList acc.reverse, rest)
    else if isNameChar acc.isEmpty c then readGroupName (c :: acc) rest
    else .error .groupNameInvalid

/-- The flag a letter names. -/
def Flag.ofChar? : Char → Option Flag
  | 'i' => some .caseInsensitive
  | 'm' => some .multiLine
  | 's' => some .dotMatchesNewLine
  | 'U' => some .swapGreed
  | 'u' => some .unicode
  | 'R' => some .crlf
  | 'x' => some .ignoreWhitespace
  | _ => none

/-- Reads flags up to `:` or `)`: each flag at most once, at most one `-`, and not a `-` last.
`items` holds the flags so far, last first. -/
def readFlags (items : List FlagItem) (lastNegation : Bool) :
    List Char → Except SyntaxError (List FlagItem × List Char)
  | [] => .error .flagUnexpectedEof
  | c :: rest =>
    if c = ':' || c = ')' then
      if lastNegation then .error .flagDanglingNegation else .ok (items.reverse, c :: rest)
    else if c = '-' then
      if items.contains .negation then .error .flagRepeatedNegation
      else if rest.isEmpty then .error .flagUnexpectedEof
      else readFlags (.negation :: items) true rest
    else
      match Flag.ofChar? c with
      | none => .error .flagUnrecognized
      | some f =>
        if items.contains (.flag f) then .error .flagDuplicate
        else if rest.isEmpty then .error .flagUnexpectedEof
        else readFlags (.flag f :: items) false rest

/-- What an opening parenthesis starts. -/
inductive GroupStart where
  /-- `(?flags)`: flags for the rest of the enclosing group -/
  | setFlags (items : List FlagItem)
  /-- a group with a body -/
  | group (kind : GroupKind)

/-- Reads what follows `(`: a look-around (refused), a named group, flags, a non-capturing
group or a plain group. `names` are the group names so far, which may not repeat. -/
def readGroupStart (ws : Bool) (names : List String) (input : List Char) :
    Except SyntaxError (GroupStart × List String × List Char) :=
  let named (rest : List Char) : Except SyntaxError (GroupStart × List String × List Char) :=
    match readGroupName [] rest with
    | .ok (name, after) =>
      if names.contains name then .error .groupNameDuplicate
      else .ok (.group (.capture (some name)), name :: names, after)
    | .error e => .error e
  match skipSpace ws input with
  | '?' :: '=' :: _ => .error .unsupportedLookAround
  | '?' :: '!' :: _ => .error .unsupportedLookAround
  | '?' :: '<' :: '=' :: _ => .error .unsupportedLookAround
  | '?' :: '<' :: '!' :: _ => .error .unsupportedLookAround
  | '?' :: 'P' :: '<' :: rest => named rest
  | '?' :: '<' :: rest => named rest
  | '?' :: rest =>
    if rest.isEmpty then .error .groupUnclosed
    else
      match readFlags [] false rest with
      | .ok (items, ')' :: after) =>
        if items.isEmpty then .error .repetitionMissing else .ok (.setFlags items, names, after)
      | .ok (items, _ :: after) => .ok (.group (.nonCapturing items), names, after)
      | .ok (_, []) => .error .flagUnexpectedEof
      | .error e => .error e
  | body => .ok (.group (.capture none), names, body)

/-- A group whose body is being read: what stood before it at its own level. -/
structure OpenGroup where
  /-- the items before the group, last first -/
  items : List Ast
  /-- the finished alternatives before the one the group stands in, last first -/
  branches : List Ast
  kind : GroupKind
  /-- whether whitespace mode was on outside the group -/
  whitespace : Bool

/-- Where the reader stands: the open groups, innermost first; the items and finished
alternatives of the innermost level, last first; the whitespace mode; the group names so
far. -/
structure ReadState where
  groups : List OpenGroup
  items : List Ast
  branches : List Ast
  whitespace : Bool
  names : List String

/-- The expression of a level: its alternatives, the last one still as items. -/
def levelAst (branches items : List Ast) : Ast :=
  Ast.ofBranches (Ast.ofConcat items.reverse :: branches).reverse

/-- The expression a repetition applies to: the last item, which may not be missing or a flag
directive. -/
def repeatable (items : List Ast) : Except SyntaxError (Ast × List Ast) :=
  match items with
  | [] => .error .repetitionMissing
  | .flags _ :: _ => .error .repetitionMissing
  | .empty :: _ => .error .repetitionMissing
  | a :: before => .ok (a, before)

/-- Reads a pattern from the state `st`; `fuel` bounds the steps, each of which reads at
least one character. -/
def readLoop : Nat → ReadState → List Char → Except SyntaxError Ast
  | 0, _, _ => .error .groupUnclosed
  | fuel + 1, st, input =>
    match skipSpace st.whitespace input with
    | [] => if st.groups.isEmpty then .ok (levelAst st.branches st.items) else .error .groupUnclosed
    | c :: rest =>
      if c = '(' then
        match readGroupStart st.whitespace st.names rest with
        | .ok (.setFlags items, names, after) =>
          readLoop fuel
            { st with
              items := .flags items :: st.items
              names := names
              whitespace := flagAfter items .ignoreWhitespace st.whitespace }
            after
        | .ok (.group kind, names, after) =>
          readLoop fuel
            { groups := ⟨st.items, st.branches, kind, st.whitespace⟩ :: st.groups
              items := []
              branches := []
              names := names
              whitespace := flagAfter kind.flags .ignoreWhitespace st.whitespace }
            after
        | .error e => .error e
      else if c = ')' then
        match st.groups with
        | [] => .error .groupUnopened
        | g :: gs =>
          readLoop fuel
            { groups := gs
              items := .group g.kind (levelAst st.branches st.items) :: g.items
              branches := g.branches
              whitespace := g.whitespace
              names := st.names }
            rest
      else if c = '|' then
        readLoop fuel
          { st with items := [], branches := Ast.ofConcat st.items.reverse :: st.branches } rest
      else if c = '[' then
        match readClassLoop st.whitespace (rest.length + 2) [] [] (c :: rest) with
        | .ok ((negated, set), after) =>
          readLoop fuel { st with items := .bracketed negated set :: st.items } after
        | .error e => .error e
      else if c = '?' || c = '*' || c = '+' then
        match repeatable st.items with
        | .ok (a, before) =>
          let range : RepetitionRange :=
            if c = '?' then .zeroOrOne else if c = '*' then .zeroOrMore else .oneOrMore
          let (greedy, after) := match rest with
            | '?' :: r => (false, r)
            | r => (true, r)
          readLoop fuel { st with items := .repetition range greedy a :: before } after
        | .error e => .error e
      else if c = '{' then
        match repeatable st.items with
        | .ok (a, before) =>
          match readCount st.whitespace rest with
          | .ok (range, greedy, after) =>
            readLoop fuel { st with items := .repetition range greedy a :: before } after
          | .error e => .error e
        | .error e => .error e
      else
        match readPrimitive st.whitespace (c :: rest) with
        | .ok (p, after) => readLoop fuel { st with items := p.toAst :: st.items } after
        | .error e => .error e

/-- Reads a pattern into its syntax tree; the tree may nest at most `nestLimit` deep. -/
def parse (pattern : String) : Except SyntaxError Ast := do
  let cs := pattern.toList
  let ast ← readLoop (cs.length + 1) ⟨[], [], [], false, []⟩ cs
  if nestLimit < ast.depth then throw .nestLimitExceeded
  pure ast

end ShipSlap.Regex
