import ShipSlap.Bytes.Basic
import ShipSlap.Decimal.Read
import ShipSlap.Regex.Compile
import ShipSlap.Text.Alphanumeric
import ShipSlap.Text.Blank
import ShipSlap.Text.Utf8
/-!
Log filters. A filter is a list of directives separated by commas (empty ones are skipped). A
directive is a bare level, or a target, a span in brackets with its fields in braces, and a
level after `=`, each part optional:

  `info`, `lookup`, `lookup=debug`, `[span]=trace`, `lookup[span{id=3}]=warn`

A level is one of `off`, `error`, `warn`, `info`, `debug`, `trace` in any case, or a number from
0 (off) to 5 (trace); a target without a level lets every level through.

A directive is read by a scan of its characters, leading and trailing blanks removed, that
cuts its parts out of the directive as written: the cuts are taken at the positions found in
the trimmed text, so blanks in front shift them.

A field value that is `true`, `false` or a number is matched as that; any other value is a
pattern, which must compile to an automaton. Fields are read as the scan meets them, so a bad
pattern is reported before a bad level after it.
-/
namespace ShipSlap.Telemetry

/-- How much a directive lets through. -/
inductive LevelFilter where
  | off
  | error
  | warn
  | info
  | debug
  | trace
  deriving DecidableEq, Repr

/-- The level a number from 0 to 5 stands for. -/
def LevelFilter.ofNumber? : Nat → Option LevelFilter
  | 0 => some .off
  | 1 => some .error
  | 2 => some .warn
  | 3 => some .info
  | 4 => some .debug
  | 5 => some .trace
  | _ => none

/-- The value of a decimal count with an optional plus sign. -/
def countValue? (s : String) : Option Nat :=
  let ds := match s.toList with
    | '+' :: rest => rest
    | cs => cs
  if !ds.isEmpty && ds.all Char.isDigit then
    some (ds.foldl (fun n c => 10 * n + (c.toNat - '0'.toNat)) 0)
  else none

/-- Reads a level: a number from 0 to 5, with an optional plus sign and any leading zeros, or
the name of a level in any case. The empty text is `error`. -/
def LevelFilter.parse? (s : String) : Option LevelFilter :=
  match countValue? s >>= LevelFilter.ofNumber? with
  | some l => some l
  | none =>
    match s.map Char.toLower with
    | "" => some .error
    | "error" => some .error
    | "warn" => some .warn
    | "info" => some .info
    | "debug" => some .debug
    | "trace" => some .trace
    | "off" => some .off
    | _ => none

/-- Why a filter does not read. -/
inductive FilterError where
  /-- a directive that is not of the form above -/
  | invalidDirective
  /-- a level that is not a level -/
  | invalidLevel
  /-- a field value that is a pattern that does not compile -/
  | invalidField (e : Regex.BuildError)
  deriving DecidableEq, Repr

/-- The text of a filter error. -/
def FilterError.message : FilterError → String
  | .invalidDirective => "invalid filter directive"
  | .invalidLevel =>
    "error parsing level filter: expected one of \"off\", \"error\", \"warn\", \"info\", " ++
      "\"debug\", \"trace\", or a number 0-5"
  | .invalidField e => "invalid field filter: " ++ e.message

/-- A field a span must carry, with the value it must have, if one is given. -/
structure FieldMatch where
  name : String
  value : Option String
  deriving DecidableEq, Repr

/-- Reads a field match `name` or `name=value`; text after a second `=` is dropped. -/
def FieldMatch.parse (s : String) : FieldMatch :=
  match s.splitOn "=" with
  | name :: value :: _ => ⟨name, some value⟩
  | parts => ⟨parts.headD "", none⟩

/-- One directive of a filter. -/
structure Directive where
  level : LevelFilter := .trace
  target : Option String := none
  inSpan : Option String := none
  fields : List FieldMatch := []
  deriving DecidableEq, Repr

/-- Where the scan of a directive stands; positions are byte offsets where a part starts. -/
inductive Scan where
  | start
  | levelOrTarget (start : Nat)
  | span (start : Nat)
  | field (start : Nat)
  | fields
  | target
  | level (start : Nat)
  | complete
  deriving DecidableEq, Repr

/-- The characters of a text with their byte offsets. -/
def withOffsets (cs : List Char) : List (Nat × Char) :=
  (cs.foldl (fun (acc : Nat × List (Nat × Char)) c => (acc.1 + c.utf8Size, (acc.1, c) :: acc.2))
    (0, [])).2.reverse

/-- The bytes of a directive from offset `a` up to offset `b`, as text. -/
def cut (text : Bytes) (a b : Nat) : String :=
  Text.decodeUtf8Lossy ((text.drop a).take (b - a))

/-- The bytes of a directive from offset `a` on, as text. -/
def cutFrom (text : Bytes) (a : Nat) : String :=
  Text.decodeUtf8Lossy (text.drop a)

/-- Reads the level part of a directive; an empty one lets every level through. -/
def levelPart (s : String) : Except FilterError LevelFilter :=
  if s.isEmpty then .ok .trace
  else match LevelFilter.parse? s with
    | some l => .ok l
    | none => .error .invalidLevel

/-- Sets the level or the target of a directive from a part that may be either. -/
def Directive.withLevelOrTarget (d : Directive) (s : String) : Directive :=
  if s.isEmpty then { d with level := .trace, target := none }
  else match LevelFilter.parse? s with
    | some l => { d with level := l, target := none }
    | none => { d with level := .trace, target := some s }

/-- Whether a field value is matched as a boolean or a number rather than as a pattern. -/
def isPlainValue (s : String) : Bool :=
  s == "true" || s == "false" || (Decimal.readBinary64 s).isSome

/-- Checks the value of a field match: a pattern must compile. -/
def FieldMatch.check (m : FieldMatch) : Except FilterError Unit :=
  match m.value with
  | some v =>
    if isPlainValue v then .ok ()
    else match Regex.compile v with
      | .ok () => .ok ()
      | .error e => .error (.invalidField e)
  | none => .ok ()

/-- Adds the field match written from offset `a` to `b`; an empty one is refused, and so is
one whose pattern does not compile. -/
def Directive.addField (d : Directive) (text : Bytes) (a b : Nat) :
    Except FilterError Directive :=
  let s := cut text a b
  if s.isEmpty then .error .invalidDirective
  else
    let m := FieldMatch.parse s
    match m.check with
    | .ok () => .ok { d with fields := d.fields ++ [m] }
    | .error e => .error e

/-- One step of the scan of a directive written as `text`, at the character `c` found at
offset `i` of the trimmed directive. -/
def Scan.step (text : Bytes) : Scan × Directive → Nat × Char → Except FilterError (Scan × Directive)
  | (.start, d), (i, c) =>
    if c = '[' then .ok (.span (i + 1), d)
    else if c = '-' || c = ':' || c = '_' || Text.isAlphanumeric c then .ok (.levelOrTarget i, d)
    else .error .invalidDirective
  | (.levelOrTarget st, d), (i, c) =>
    match c with
    | '=' => .ok (.level (i + 1), { d with target := some (cut text st i) })
    | '[' => .ok (.span (i + 1), { d with target := some (cut text st i) })
    | ',' => .ok (.complete, d.withLevelOrTarget (cutFrom text st))
    | _ => .ok (.levelOrTarget st, d)
  | (.target, d), (i, c) =>
    if c = '=' then .ok (.level (i + 1), d) else .error .invalidDirective
  | (.span st, d), (i, c) =>
    match c with
    | ']' => .ok (.target, { d with inSpan := some (cut text st i) })
    | '{' =>
      let name := cut text st i
      .ok (.field (i + 1), { d with inSpan := if name.isEmpty then none else some name })
    | _ => .ok (.span st, d)
  | (.field st, d), (i, c) =>
    match c with
    | '}' => do .ok (.fields, ← d.addField text st i)
    | ',' => do .ok (.field (i + 1), ← d.addField text st i)
    | _ => .ok (.field st, d)
  | (.fields, d), (_, c) =>
    if c = ']' then .ok (.target, d) else .error .invalidDirective
  | (.level st, d), (i, c) =>
    if c = ',' then do .ok (.complete, { d with level := ← levelPart (cut text st i) })
    else .ok (.level st, d)
  | (.complete, _), _ => .error .invalidDirective

/-- Ends the scan of a directive written as `text`. -/
def Scan.finish (text : Bytes) : Scan × Directive → Except FilterError Directive
  | (.levelOrTarget st, d) => .ok (d.withLevelOrTarget (cutFrom text st))
  | (.level st, d) => do .ok { d with level := ← levelPart (cutFrom text st) }
  | (.target, d) => .ok d
  | (.complete, d) => .ok d
  | _ => .error .invalidDirective

/-- Reads one directive: a bare level, or the scan of its parts. -/
def Directive.parse (s : String) : Except FilterError Directive :=
  match LevelFilter.parse? s with
  | some l => .ok { level := l }
  | none =>
    let text := Bytes.ofString s
    (withOffsets (Text.trimChars s.toList)).foldlM (Scan.step text) (.start, {}) >>=
      Scan.finish text

/-- Reads a filter: its directives separated by commas, empty ones skipped; the first
directive that does not read decides the error. -/
def parseFilter (s : String) : Except FilterError (List Directive) :=
  ((s.splitOn ",").filter (!·.isEmpty)).mapM Directive.parse

end ShipSlap.Telemetry
