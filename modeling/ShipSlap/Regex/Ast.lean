/-!
The abstract syntax of regular expressions: literals, classes, assertions, repetitions, groups,
alternations and concatenations, with the flag directives that change how the rest of a group
reads. A bracketed class is a tree of set operations (intersection `&&`, difference `--`,
symmetric difference `~~`) over unions of items.

`SyntaxError` names every way a pattern can fail to read or to translate; `Ast.depth` is the
nesting depth that the reader limits.
-/
namespace ShipSlap.Regex

/-- Why a pattern does not read, or does not translate to something a matcher can run. -/
inductive SyntaxError where
  | groupUnclosed
  | groupUnopened
  | groupNameEmpty
  | groupNameInvalid
  | groupNameUnexpectedEof
  | groupNameDuplicate
  | unsupportedLookAround
  | flagUnrecognized
  | flagDuplicate
  | flagRepeatedNegation
  | flagDanglingNegation
  | flagUnexpectedEof
  | repetitionMissing
  | repetitionCountUnclosed
  | repetitionCountDecimalEmpty
  | repetitionCountInvalid
  | decimalInvalid
  | escapeUnexpectedEof
  | escapeUnrecognized
  | escapeHexInvalidDigit
  | escapeHexInvalid
  | escapeHexEmpty
  | unsupportedBackreference
  | unicodeClassInvalid
  | specialWordBoundaryUnclosed
  | specialWordBoundaryUnrecognized
  | specialWordOrRepetitionUnexpectedEof
  | classUnclosed
  | classRangeInvalid
  | classRangeLiteral
  | classEscapeInvalid
  | nestLimitExceeded
  /-- a Unicode class where Unicode mode is off -/
  | unicodeNotAllowed
  /-- something that could match bytes that are not UTF-8 -/
  | invalidUtf8
  /-- a Unicode property that is not known -/
  | unicodePropertyNotFound
  /-- a value of a Unicode property that is not known -/
  | unicodePropertyValueNotFound
  deriving DecidableEq, Repr

/-- A flag of a group or of a flag directive. -/
inductive Flag where
  /-- `i` -/
  | caseInsensitive
  /-- `m` -/
  | multiLine
  /-- `s` -/
  | dotMatchesNewLine
  /-- `U` -/
  | swapGreed
  /-- `u` -/
  | unicode
  /-- `R` -/
  | crlf
  /-- `x` -/
  | ignoreWhitespace
  deriving DecidableEq, Repr

/-- An item of a flag list: a flag, or the `-` that turns off the flags after it. -/
inductive FlagItem where
  | negation
  | flag (f : Flag)
  deriving DecidableEq, Repr

/-- What a flag list says of a flag: on, off, or nothing. -/
def flagState (items : List FlagItem) (f : Flag) : Option Bool :=
  go items true
where
  /-- `on` is false once the negation has been passed. -/
  go : List FlagItem → Bool → Option Bool
    | [], _ => none
    | .negation :: rest, _ => go rest false
    | .flag g :: rest, on => if g = f then some on else go rest on

/-- A flag as it stands after a flag list: as the list sets it, or as it was. -/
def flagAfter (items : List FlagItem) (f : Flag) (before : Bool) : Bool :=
  (flagState items f).getD before

/-- How a literal is written. -/
inductive LiteralKind where
  /-- the character itself -/
  | verbatim
  /-- a punctuation character after a backslash -/
  | escaped
  /-- `\a`, `\f`, `\t`, `\n`, `\r` or `\v` -/
  | special
  /-- `\x` and two hexadecimal digits: outside Unicode mode, a byte -/
  | byteEscape
  /-- `\x{…}`, `\u`, `\U` and their braced forms: a code point -/
  | codeEscape
  deriving DecidableEq, Repr

/-- A literal character. -/
structure Literal where
  kind : LiteralKind
  c : Char
  deriving DecidableEq, Repr

/-- A zero-width assertion. -/
inductive Assertion where
  /-- `^` -/
  | startLine
  /-- `$` -/
  | endLine
  /-- `\A` -/
  | startText
  /-- `\z` -/
  | endText
  /-- `\b` -/
  | wordBoundary
  /-- `\B` -/
  | notWordBoundary
  /-- `\b{start}` -/
  | wordStart
  /-- `\b{end}` -/
  | wordEnd
  /-- `\<` -/
  | wordStartAngle
  /-- `\>` -/
  | wordEndAngle
  /-- `\b{start-half}` -/
  | wordStartHalf
  /-- `\b{end-half}` -/
  | wordEndHalf
  deriving DecidableEq, Repr

/-- Whether an assertion looks at word characters. -/
def Assertion.isWord : Assertion → Bool
  | .startLine | .endLine | .startText | .endText => false
  | _ => true

/-- The kinds of `\d`, `\s` and `\w`. -/
inductive PerlKind where
  | digit
  | space
  | word
  deriving DecidableEq, Repr

/-- A class `\d`, `\s`, `\w` or its negation `\D`, `\S`, `\W`. -/
structure PerlClass where
  kind : PerlKind
  negated : Bool
  deriving DecidableEq, Repr

/-- What a Unicode class `\p…` asks for. -/
inductive ClassQuery where
  /-- `\pL`: a one-letter name -/
  | oneLetter (c : Char)
  /-- `\p{Greek}`: a binary property, a general category or a script -/
  | named (name : String)
  /-- `\p{sc=Greek}`: a property and one of its values -/
  | namedValue (name value : String)
  deriving DecidableEq, Repr

/-- A Unicode class, negated by `\P` or by `!=`. -/
structure UnicodeClass where
  query : ClassQuery
  negated : Bool
  deriving DecidableEq, Repr

/-- The named classes `[:alpha:]` and the like. -/
inductive AsciiKind where
  | alnum
  | alpha
  | ascii
  | blank
  | cntrl
  | digit
  | graph
  | lower
  | print
  | punct
  | space
  | upper
  | word
  | xdigit
  deriving DecidableEq, Repr

/-- The named class of a name. -/
def AsciiKind.ofName? : String → Option AsciiKind
  | "alnum" => some .alnum
  | "alpha" => some .alpha
  | "ascii" => some .ascii
  | "blank" => some .blank
  | "cntrl" => some .cntrl
  | "digit" => some .digit
  | "graph" => some .graph
  | "lower" => some .lower
  | "print" => some .print
  | "punct" => some .punct
  | "space" => some .space
  | "upper" => some .upper
  | "word" => some .word
  | "xdigit" => some .xdigit
  | _ => none

/-- The set operations of a bracketed class. -/
inductive SetOp where
  | intersection
  | difference
  | symmetricDifference
  deriving DecidableEq, Repr

mutual
/-- An item of a bracketed class. -/
inductive ClassItem where
  | empty
  | literal (lit : Literal)
  | range (lo hi : Literal)
  | ascii (kind : AsciiKind) (negated : Bool)
  | unicode (cls : UnicodeClass)
  | perl (cls : PerlClass)
  /-- a bracketed class inside another -/
  | bracketed (negated : Bool) (set : ClassSet)
  | union (items : List ClassItem)

/-- The body of a bracketed class: an item, or a set operation on two bodies. -/
inductive ClassSet where
  | item (i : ClassItem)
  | op (kind : SetOp) (lhs rhs : ClassSet)
end

/-- How often a repetition repeats. -/
inductive RepetitionRange where
  /-- `?` -/
  | zeroOrOne
  /-- `*` -/
  | zeroOrMore
  /-- `+` -/
  | oneOrMore
  /-- `{n}` -/
  | exactly (n : Nat)
  /-- `{n,}` -/
  | atLeast (n : Nat)
  /-- `{m,n}` -/
  | bounded (m n : Nat)
  deriving DecidableEq, Repr

/-- Whether a repetition repeats nothing at all, `{0}` or `{0,0}`. -/
def RepetitionRange.isNever : RepetitionRange → Bool
  | .exactly 0 => true
  | .bounded 0 0 => true
  | _ => false

/-- The kinds of groups. -/
inductive GroupKind where
  /-- `(…)` or `(?<name>…)` -/
  | capture (name : Option String)
  /-- `(?flags:…)` -/
  | nonCapturing (flags : List FlagItem)
  deriving DecidableEq, Repr

/-- The flags a group sets for its body. -/
def GroupKind.flags : GroupKind → List FlagItem
  | .capture _ => []
  | .nonCapturing flags => flags

/-- A regular expression. -/
inductive Ast where
  | empty
  /-- `(?flags)`: sets flags for the rest of the enclosing group -/
  | flags (items : List FlagItem)
  | literal (lit : Literal)
  /-- `.` -/
  | dot
  | assertion (a : Assertion)
  | unicodeClass (cls : UnicodeClass)
  | perlClass (cls : PerlClass)
  | bracketed (negated : Bool) (set : ClassSet)
  | repetition (range : RepetitionRange) (greedy : Bool) (sub : Ast)
  | group (kind : GroupKind) (sub : Ast)
  | alternation (branches : List Ast)
  | concat (items : List Ast)

/-- The union of class items as one item: nothing, the item itself, or their union. -/
def ClassItem.ofUnion : List ClassItem → ClassItem
  | [] => .empty
  | [i] => i
  | items => .union items

/-- A sequence of expressions as one: nothing, the expression itself, or their
concatenation. -/
def Ast.ofConcat : List Ast → Ast
  | [] => .empty
  | [a] => a
  | items => .concat items

/-- Alternatives as one expression: the expression itself if there is one, else their
alternation. -/
def Ast.ofBranches : List Ast → Ast
  | [a] => a
  | branches => .alternation branches

mutual
/-- The nesting depth of a class item: unions and bracketed classes count one level each. -/
def ClassItem.depth : ClassItem → Nat
  | .bracketed _ set => set.depth + 1
  | .union items => ClassItem.depthList items + 1
  | _ => 0

/-- The nesting depth of a class body: set operations count one level each. -/
def ClassSet.depth : ClassSet → Nat
  | .item i => i.depth
  | .op _ lhs rhs => max lhs.depth rhs.depth + 1

/-- The greatest depth of a list of class items. -/
def ClassItem.depthList : List ClassItem → Nat
  | [] => 0
  | i :: rest => max i.depth (ClassItem.depthList rest)
end

mutual
/-- The nesting depth of an expression: classes, repetitions, groups, alternations and
concatenations count one level each; single items count none. -/
def Ast.depth : Ast → Nat
  | .bracketed _ set => set.depth + 1
  | .repetition _ _ sub => sub.depth + 1
  | .group _ sub => sub.depth + 1
  | .alternation branches => Ast.depthList branches + 1
  | .concat items => Ast.depthList items + 1
  | _ => 0

/-- The greatest depth of a list of expressions. -/
def Ast.depthList : List Ast → Nat
  | [] => 0
  | a :: rest => max a.depth (Ast.depthList rest)
end

/-- The deepest nesting the reader accepts. -/
def nestLimit : Nat := 250

end ShipSlap.Regex
