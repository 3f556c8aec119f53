import ShipSlap.Regex.Parse
import ShipSlap.Regex.Names
/-!
Compiling a pattern to a deterministic automaton over the bytes of UTF-8 text, as far as it can
fail. The pattern must read (`parse`), and its tree must translate:

* Unicode classes `\p…` must name a known set of characters, and need Unicode mode;
* without Unicode mode (`(?-u)`) nothing may match a byte of a character beyond ASCII, since
  the text is UTF-8: no `.`, no `\x80` to `\xFF`, no negated class, no character beyond ASCII
  in a class.

Unicode mode is on at the start. A flag directive `(?flags)` sets flags up to the end of the
group it stands in, across alternatives; a group `(?flags:…)` sets them for its body only.

The automaton cannot decide word boundaries in Unicode mode (`\b`, `\B`, `\<`, `\>` and
`\b{…}`), except where a repetition `{0}` removes them.
-/
namespace ShipSlap.Regex

/-- Whether a name is a value of the general category, or `Any`, `Assigned` or `ASCII`. -/
def isGeneralCategory (name : String) : Bool :=
  let key := looseName name
  key == "any" || key == "assigned" || key == "ascii" ||
    (canonicalIn generalCategoryAliases name).isSome

/-- Whether a name is a script that some character has. -/
def isScriptWithCharacters (name : String) : Bool :=
  match canonicalIn scriptAliases name with
  | some s => !emptyScripts.contains s
  | none => false

/-- Checks a lone name: a binary property, else a general category, else a script. The names
`cf`, `sc` and `lc` are the categories, not the properties they also abbreviate. -/
def checkBinaryName (name : String) : Except SyntaxError Unit :=
  let key := looseName name
  let property := if key = "cf" ∨ key = "sc" ∨ key = "lc" then none
    else canonicalIn propertyAliases name
  match property with
  | some p => if binaryProperties.contains p then .ok () else .error .unicodePropertyNotFound
  | none =>
    if isGeneralCategory name then .ok ()
    else match canonicalIn scriptAliases name with
      | some s =>
        if emptyScripts.contains s then .error .unicodePropertyValueNotFound else .ok ()
      | none => .error .unicodePropertyNotFound

/-- Checks a property and a value: the property must be the general category, a script
property, the age or a segmentation property, and the value one of its values that some
character has. -/
def checkPropertyValue (name value : String) : Except SyntaxError Unit :=
  match canonicalIn propertyAliases name with
  | none => .error .unicodePropertyNotFound
  | some p =>
    let known := match p with
      | "General_Category" => isGeneralCategory value
      | "Script" => isScriptWithCharacters value
      | "Script_Extensions" => isScriptWithCharacters value
      | "Age" => (canonicalIn ageAliases value).isSome
      | "Grapheme_Cluster_Break" => (canonicalIn graphemeBreakAliases value).isSome
      | "Sentence_Break" => (canonicalIn sentenceBreakAliases value).isSome
      | "Word_Break" => (canonicalIn wordBreakAliases value).isSome
      | _ => false
    if known then .ok () else .error .unicodePropertyValueNotFound

/-- Checks that a Unicode class names a known set of characters. -/
def checkQuery : ClassQuery → Except SyntaxError Unit
  | .oneLetter c => checkBinaryName (String.singleton c)
  | .named name => checkBinaryName name
  | .namedValue name value => checkPropertyValue name value

/-- Checks a literal of a class: without Unicode mode it must be ASCII. -/
def checkClassLiteral (unicode : Bool) (lit : Literal) : Except SyntaxError Unit :=
  if unicode || lit.c.toNat < 128 then .ok ()
  else if lit.kind = .byteEscape then .error .invalidUtf8
  else .error .unicodeNotAllowed

mutual
/-- Checks an item of a class; a negated class or item without Unicode mode would match bytes
beyond ASCII. -/
def checkItem (unicode : Bool) : ClassItem → Except SyntaxError Unit
  | .empty => .ok ()
  | .literal lit => checkClassLiteral unicode lit
  | .range lo hi => do checkClassLiteral unicode lo; checkClassLiteral unicode hi
  | .ascii _ negated => if !unicode && negated then .error .invalidUtf8 else .ok ()
  | .unicode cls => if unicode then checkQuery cls.query else .error .unicodeNotAllowed
  | .perl cls => if !unicode && cls.negated then .error .invalidUtf8 else .ok ()
  | .bracketed negated set => do
    checkSet unicode set
    if !unicode && negated then .error .invalidUtf8 else .ok ()
  | .union items => checkItems unicode items

/-- Checks the items of a union. -/
def checkItems (unicode : Bool) : List ClassItem → Except SyntaxError Unit
  | [] => .ok ()
  | i :: rest => do checkItem unicode i; checkItems unicode rest

/-- Checks the body of a class. -/
def checkSet (unicode : Bool) : ClassSet → Except SyntaxError Unit
  | .item i => checkItem unicode i
  | .op _ lhs rhs => do checkSet unicode lhs; checkSet unicode rhs
end

mutual
/-- Checks an expression with Unicode mode as given: Unicode mode after it (a flag directive
changes it), and whether a Unicode word assertion remains in it. -/
def checkAst (unicode : Bool) : Ast → Except SyntaxError (Bool × Bool)
  | .empty => .ok (unicode, false)
  | .flags items => .ok (flagAfter items .unicode unicode, false)
  | .literal lit =>
    if !unicode && lit.kind = .byteEscape && 128 ≤ lit.c.toNat then .error .invalidUtf8
    else .ok (unicode, false)
  | .dot => if unicode then .ok (unicode, false) else .error .invalidUtf8
  | .assertion a => .ok (unicode, unicode && a.isWord)
  | .unicodeClass cls =>
    if unicode then (checkQuery cls.query).map fun _ => (unicode, false)
    else .error .unicodeNotAllowed
  | .perlClass cls => if !unicode && cls.negated then .error .invalidUtf8 else .ok (unicode, false)
  | .bracketed negated set => do
    checkSet unicode set
    if !unicode && negated then .error .invalidUtf8 else .ok (unicode, false)
  | .repetition range _ sub => do
    let (_, word) ← checkAst unicode sub
    pure (unicode, word && !range.isNever)
  | .group kind sub => do
    let (_, word) ← checkAst (flagAfter kind.flags .unicode unicode) sub
    pure (unicode, word)
  | .alternation branches => checkAsts unicode branches
  | .concat items => checkAsts unicode items

/-- Checks expressions one after another, Unicode mode carried from each to the next. -/
def checkAsts (unicode : Bool) : List Ast → Except SyntaxError (Bool × Bool)
  | [] => .ok (unicode, false)
  | a :: rest => do
    let (u, word) ← checkAst unicode a
    let (u', word') ← checkAsts u rest
    pure (u', word || word')
end

/-- Why a pattern gives no automaton. -/
inductive BuildError where
  /-- the pattern does not read or translate -/
  | invalid (e : SyntaxError)
  /-- the pattern asks for Unicode word boundaries -/
  | unicodeWordBoundary
  deriving DecidableEq, Repr

/-- The text of a build error. -/
def BuildError.message : BuildError → String
  | .invalid _ => "error building NFA"
  | .unicodeWordBoundary =>
    "unsupported regex feature for DFAs: cannot build DFAs for regexes with Unicode word " ++
      "boundaries; switch to ASCII word boundaries, or heuristically enable Unicode word " ++
      "boundaries or use a different regex engine"

/-- Checks that a pattern compiles to an automaton. -/
def compile (pattern : String) : Except BuildError Unit := do
  let ast ← (parse pattern).mapError .invalid
  let (_, word) ← (checkAst true ast).mapError .invalid
  if word then throw .unicodeWordBoundary

end ShipSlap.Regex
