import ShipSlap.Json.Read
import ShipSlap.Text.Utf8
/-!
JSON bytes read for a decoder that looks at some members only. A member the decoder skips is
only checked for its form: its strings may hold bytes that are not UTF-8 or escapes of lone
surrogates, and its numbers may lie beyond the range of any number type. So scalars are kept
as written and given a meaning only where the decoder asks for one: a string as the text it
spells (`Loose.text?`), a number as the class and value its spelling reads to
(`Loose.number?`). Member names must always spell text.

Arrays and objects may nest 127 deep.
-/
namespace ShipSlap.Json

/-- A piece of a string literal: a byte as written, or the UTF-16 code unit of an escape. -/
inductive Piece where
  | byte (b : UInt8)
  | unit (u : Nat)
  deriving DecidableEq, Repr

/-- A JSON value with its scalars as written. -/
inductive Loose where
  | null
  | bool (b : Bool)
  /-- a number, as its characters -/
  | num (spelling : List Char)
  /-- a string, as the pieces between its quotes -/
  | str (pieces : List Piece)
  | arr (items : List Loose)
  | obj (members : List (String × Loose))
  deriving Repr, Inhabited

/-- The character a byte stands for, for ASCII bytes. -/
def asciiChar (b : UInt8) : Char := Char.ofNat b.toNat

/-- Blanks between tokens. -/
def isBlankByte (b : UInt8) : Bool :=
  b = 0x20 || b = 0x09 || b = 0x0a || b = 0x0d

/-- Drops blanks. -/
def skipBlankBytes (bs : Bytes) : Bytes := bs.dropWhile isBlankByte

/-- The code unit a one-letter escape stands for. -/
def escapeUnit? (e : UInt8) : Option Nat :=
  match asciiChar e with
  | '"' => some 0x22
  | '\\' => some 0x5c
  | '/' => some 0x2f
  | 'b' => some 0x08
  | 'f' => some 0x0c
  | 'n' => some 0x0a
  | 'r' => some 0x0d
  | 't' => some 0x09
  | _ => none

/-- The pieces of a string literal after its opening quote, up to the closing quote, and the
bytes after it; controls may not stand in a string. -/
def readPieces : Bytes → List Piece → Option (List Piece × Bytes)
  | [], _ => none
  | b :: rest, acc =>
    if b = 0x22 then some (acc.reverse, rest)
    else if b = 0x5c then
      match rest with
      | e :: more =>
        if e = 0x75 then
          match more with
          | a :: b' :: c :: d :: tail =>
            match hex4 [asciiChar a, asciiChar b', asciiChar c, asciiChar d] with
            | some u => readPieces tail (.unit u :: acc)
            | none => none
          | _ => none
        else match escapeUnit? e with
          | some u => readPieces more (.unit u :: acc)
          | none => none
      | [] => none
    else if b < 0x20 then none
    else readPieces rest (.byte b :: acc)

/-- The characters that pieces spell: bytes as UTF-8, escapes as UTF-16 with surrogates in
pairs. `pending` holds the bytes since the last escape, last first. -/
def piecesChars : List Piece → Bytes → Option (List Char)
  | [], pending => Text.decodeChars? pending.reverse
  | .byte b :: rest, pending => piecesChars rest (b :: pending)
  | .unit u :: rest, pending => do
    let before ← Text.decodeChars? pending.reverse
    if 0xD800 ≤ u ∧ u < 0xDC00 then
      match rest with
      | .unit lo :: more =>
        if 0xDC00 ≤ lo ∧ lo < 0xE000 then
          let c := Char.ofNat (0x10000 + (u - 0xD800) * 0x400 + (lo - 0xDC00))
          (fun after => before ++ c :: after) <$> piecesChars more []
        else none
      | _ => none
    else if 0xDC00 ≤ u ∧ u < 0xE000 then none
    else (fun after => before ++ Char.ofNat u :: after) <$> piecesChars rest []

/-- The characters of a number, which starts with `-` or a digit: an integer part without a
superfluous leading zero, then an optional fraction and exponent, each with digits. -/
def numberSpelling (bs : Bytes) : Option (List Char × Bytes) :=
  let isDigitByte (b : UInt8) : Bool := 0x30 ≤ b && b ≤ 0x39
  let (sign, body) := match bs with
    | b :: rest => if b = 0x2d then ([b], rest) else ([], bs)
    | [] => ([], bs)
  let intPart := body.takeWhile isDigitByte
  let afterInt := body.dropWhile isDigitByte
  let intOk := match intPart with
    | [] => false
    | [_] => true
    | z :: _ => z ≠ 0x30
  let (frac, afterFrac, fracOk) := match afterInt with
    | b :: rest =>
      if b = 0x2e then
        let ds := rest.takeWhile isDigitByte
        (b :: ds, rest.dropWhile isDigitByte, !ds.isEmpty)
      else ([], afterInt, true)
    | [] => ([], afterInt, true)
  let (expo, afterExp, expOk) := match afterFrac with
    | b :: rest =>
      if b = 0x65 || b = 0x45 then
        let (s, r) := match rest with
          | c :: r' => if c = 0x2b || c = 0x2d then ([c], r') else ([], rest)
          | [] => ([], rest)
        let ds := r.takeWhile isDigitByte
        (b :: s ++ ds, r.dropWhile isDigitByte, !ds.isEmpty)
      else ([], afterFrac, true)
    | [] => ([], afterFrac, true)
  if intOk && fracOk && expOk then
    some ((sign ++ intPart ++ frac ++ expo).map asciiChar, afterExp)
  else none

mutual
/-- Reads one value after blanks; `depth` is how many more arrays and objects may open, and
`fuel` bounds the work. -/
def readLoose (depth fuel : Nat) (bs : Bytes) : Option (Loose × Bytes) :=
  match fuel with
  | 0 => none
  | fuel + 1 =>
    match skipBlankBytes bs with
    | [] => none
    | b :: rest =>
      if b = 0x6e then
        if rest.take 3 = [0x75, 0x6c, 0x6c] then some (.null, rest.drop 3) else none
      else if b = 0x74 then
        if rest.take 3 = [0x72, 0x75, 0x65] then some (.bool true, rest.drop 3) else none
      else if b = 0x66 then
        if rest.take 4 = [0x61, 0x6c, 0x73, 0x65] then some (.bool false, rest.drop 4) else none
      else if b = 0x22 then
        (readPieces rest []).map fun (ps, r) => (.str ps, r)
      else if b = 0x5b then
        if depth ≤ 1 then none
        else match skipBlankBytes rest with
          | c :: after =>
            if c = 0x5d then some (.arr [], after) else readLooseItems (depth - 1) fuel rest []
          | [] => none
      else if b = 0x7b then
        if depth ≤ 1 then none
        else match skipBlankBytes rest with
          | c :: after =>
            if c = 0x7d then some (.obj [], after)
            else readLooseMembers (depth - 1) fuel rest []
          | [] => none
      else if b = 0x2d || (0x30 ≤ b && b ≤ 0x39) then
        (numberSpelling (b :: rest)).map fun (s, r) => (.num s, r)
      else none

/-- Reads the items of an array after `[`, each followed by `,` or `]`. -/
def readLooseItems (depth fuel : Nat) (bs : Bytes) (acc : List Loose) : Option (Loose × Bytes) :=
  match fuel with
  | 0 => none
  | fuel + 1 => do
    let (v, rest) ← readLoose depth fuel bs
    match skipBlankBytes rest with
    | c :: after =>
      if c = 0x2c then readLooseItems depth fuel after (v :: acc)
      else if c = 0x5d then some (.arr (v :: acc).reverse, after)
      else none
    | [] => none

/-- Reads the members of an object after `{`, each followed by `,` or `}`; a member name must
spell text. -/
def readLooseMembers (depth fuel : Nat) (bs : Bytes) (acc : List (String × Loose)) :
    Option (Loose × Bytes) :=
  match fuel with
  | 0 => none
  | fuel + 1 =>
    match skipBlankBytes bs with
    | q :: rest => do
      if q ≠ 0x22 then none
      let (ps, afterKey) ← readPieces rest []
      let key ← piecesChars ps []
      match skipBlankBytes afterKey with
      | c :: afterColon =>
        if c ≠ 0x3a then none
        let (v, afterValue) ← readLoose depth fuel afterColon
        match skipBlankBytes afterValue with
        | d :: after =>
          if d = 0x2c then readLooseMembers depth fuel after ((String.ofList key, v) :: acc)
          else if d = 0x7d then some (.obj ((String.ofList key, v) :: acc).reverse, after)
          else none
        | [] => none
      | [] => none
    | [] => none
end

/-- Reads bytes as one JSON value with only blanks around it. -/
def readLooseBytes (bs : Bytes) : Option Loose := do
  let (v, rest) ← readLoose 128 (2 * bs.length + 2) bs
  if (skipBlankBytes rest).isEmpty then some v else none

namespace Loose

/-- The text a string spells, if it is a string that spells one. -/
def text? : Loose → Option String
  | .str ps => (piecesChars ps []).map String.ofList
  | _ => none

/-- The number a number reads to, if it is a number in range. -/
def number? : Loose → Option JsonNumber
  | .num s =>
    match readNumber s with
    | .ok (n, []) => some n
    | _ => none
  | _ => none

/-- The items of an array. -/
def items? : Loose → Option (List Loose)
  | .arr items => some items
  | _ => none

/-- The fields `names` of a record: the members of an object with those names, each present
exactly once (others are skipped), or the items of an array of exactly that many items. -/
def fields? (names : List String) : Loose → Option (List Loose)
  | .obj members =>
    names.mapM fun n =>
      match members.filter (·.1 == n) with
      | [(_, v)] => some v
      | _ => none
  | .arr items => if items.length = names.length then some items else none
  | _ => none

end Loose

end ShipSlap.Json
