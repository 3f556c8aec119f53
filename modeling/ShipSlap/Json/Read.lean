import ShipSlap.Json.Basic
/-!
Reading JSON text. Numbers get their class from their spelling: an integer without fraction or
exponent that fits 64 unsigned bits is `nat`, a negative one that fits 64 signed bits is
`negInt` (minus zero is a float), and all others are floats. A float is assembled the way a
streaming reader does it: the leading digits that fit 64 bits form a significand (later digits
only move the exponent), the significand is rounded to binary64 and then multiplied or divided
by the binary64 power of ten; a result beyond the finite range is an error.
-/
namespace ShipSlap.Json

/-- The greatest 64-bit unsigned integer. -/
def maxU64 : Nat := Nat.pow 2 64 - 1

/-- Blanks between JSON tokens. -/
def isSpace (c : Char) : Bool :=
  c = ' ' || c = '\t' || c = '\n' || c = '\r'

/-- The digits of a number text, as read so far: the significand that still fits 64 bits, the
power of ten it is off by, and whether further digits were dropped. -/
structure Digits where
  significand : Nat
  exponent : Int
  overflowed : Bool

/-- Adds one digit of the integer part. -/
def Digits.pushInt (d : Digits) (v : Nat) : Digits :=
  if d.overflowed || maxU64 < d.significand * 10 + v then
    { d with exponent := d.exponent + 1, overflowed := true }
  else { d with significand := d.significand * 10 + v }

/-- Adds one digit of the fraction. -/
def Digits.pushFrac (d : Digits) (v : Nat) : Digits :=
  if d.overflowed || maxU64 < d.significand * 10 + v then { d with overflowed := true }
  else { d with significand := d.significand * 10 + v, exponent := d.exponent - 1 }

/-- The binary64 power of ten `10 ^ k`, for `k ≤ 308`. -/
def powTen (k : Nat) : Binary64 :=
  Binary64.ofDecimal false 1 k

/-- `significand · 10 ^ exponent`: the significand rounded, then scaled by powers of ten of at
most 308 places, dividing by `10 ^ 308` while the exponent is further below. -/
def floatOfParts (negative : Bool) (significand : Nat) (exponent : Int) :
    Except String Binary64 :=
  let rec scale (f : Binary64) (e : Int) : Nat → Except String Binary64
    | 0 => .ok f
    | fuel + 1 =>
      if e.natAbs ≤ 308 then
        if 0 ≤ e then
          let g := Binary64.mul f (powTen e.toNat)
          if g.isFinite then .ok g else .error "number out of range"
        else .ok (Binary64.div f (powTen e.natAbs))
      else if f = Binary64.zero false then .ok f
      else if 0 ≤ e then .error "number out of range"
      else scale (Binary64.div f (powTen 308)) (e + 308) fuel
  (scale (Binary64.ofNat significand) exponent 8).map fun f => if negative then f.neg else f

/-- Splits off leading ASCII digits. -/
def spanDigits (cs : List Char) : List Char × List Char :=
  (cs.takeWhile Char.isDigit, cs.dropWhile Char.isDigit)

/-- The value of a digit character. -/
def digitVal (c : Char) : Nat := c.toNat - 48

/-- Reads a number (the text starts with `-` or a digit). -/
def readNumber (cs : List Char) : Except String (JsonNumber × List Char) := do
  let (negative, body) := match cs with
    | '-' :: rest => (true, rest)
    | _ => (false, cs)
  let (intDigits, afterInt) := spanDigits body
  match intDigits with
  | [] => throw "invalid number"
  | '0' :: _ :: _ => throw "invalid number"
  | _ => pure ()
  let d0 : Digits := intDigits.foldl (fun d c => d.pushInt (digitVal c)) ⟨0, 0, false⟩
  let (d1, afterFrac, hasFrac) ← match afterInt with
    | '.' :: rest =>
      let (fracDigits, after) := spanDigits rest
      if fracDigits.isEmpty then throw "invalid number"
      else pure (fracDigits.foldl (fun d c => d.pushFrac (digitVal c)) d0, after, true)
    | _ => pure (d0, afterInt, false)
  match afterFrac with
  | c :: rest =>
    if c = 'e' ∨ c = 'E' then
      let (expNeg, expBody) := match rest with
        | '+' :: r => (false, r)
        | '-' :: r => (true, r)
        | r => (false, r)
      let (expDigits, after) := spanDigits expBody
      if expDigits.isEmpty then throw "invalid number"
      let e := expDigits.foldl (fun n c => n * 10 + digitVal c) 0
      if Nat.pow 2 31 - 1 < e then
        if d1.significand ≠ 0 ∧ !expNeg then throw "number out of range"
        else return (.float (Binary64.zero negative), after)
      let f ← floatOfParts negative d1.significand (d1.exponent + (if expNeg then -(e : Int) else e))
      return (.float f, after)
    else pure ()
  | [] => pure ()
  if hasFrac || d1.overflowed then
    let f ← floatOfParts negative d1.significand d1.exponent
    return (.float f, afterFrac)
  if !negative then return (.nat d1.significand, afterFrac)
  if d1.significand = 0 then return (.float (Binary64.zero true), afterFrac)
  if d1.significand ≤ Nat.pow 2 63 then return (.negInt (-(d1.significand : Int)), afterFrac)
  return (.float (Binary64.ofNat d1.significand).neg, afterFrac)

/-- The value of four hexadecimal digits. -/
def hex4 (cs : List Char) : Option Nat :=
  if cs.length = 4 then
    cs.foldlM (fun n c =>
      if c.isDigit then some (n * 16 + digitVal c)
      else if 'a' ≤ c ∧ c ≤ 'f' then some (n * 16 + c.toNat - 87)
      else if 'A' ≤ c ∧ c ≤ 'F' then some (n * 16 + c.toNat - 55)
      else none) 0
  else none

/-- Reads the rest of a string literal after its opening quote. -/
def readString (cs : List Char) (acc : List Char) : Except String (String × List Char) :=
  match cs with
  | [] => .error "unterminated string"
  | '"' :: rest => .ok (String.ofList acc.reverse, rest)
  | '\\' :: e :: rest =>
    match e with
    | '"' => readString rest ('"' :: acc)
    | '\\' => readString rest ('\\' :: acc)
    | '/' => readString rest ('/' :: acc)
    | 'b' => readString rest ('\x08' :: acc)
    | 'f' => readString rest ('\x0c' :: acc)
    | 'n' => readString rest ('\n' :: acc)
    | 'r' => readString rest ('\r' :: acc)
    | 't' => readString rest ('\t' :: acc)
    | 'u' =>
      match rest with
      | a :: b :: c :: d :: tail =>
        match hex4 [a, b, c, d] with
        | some hi =>
          if 0xD800 ≤ hi ∧ hi < 0xDC00 then
            match tail with
            | '\\' :: 'u' :: a' :: b' :: c' :: d' :: tail' =>
              match hex4 [a', b', c', d'] with
              | some lo =>
                if 0xDC00 ≤ lo ∧ lo < 0xE000 then
                  readString tail'
                    (Char.ofNat (0x10000 + (hi - 0xD800) * 0x400 + (lo - 0xDC00)) :: acc)
                else .error "lone leading surrogate in hex escape"
              | none => .error "invalid escape"
            | _ => .error "lone leading surrogate in hex escape"
          else if 0xDC00 ≤ hi ∧ hi < 0xE000 then .error "lone trailing surrogate in hex escape"
          else readString tail (Char.ofNat hi :: acc)
        | none => .error "invalid escape"
      | _ => .error "EOF while parsing a string"
    | _ => .error "invalid escape"
  | c :: rest =>
    if c.toNat < 0x20 then .error "control character in string" else readString rest (c :: acc)
termination_by cs.length
decreasing_by all_goals simp_wf; all_goals grind

mutual

/-- Reads one value after blanks; `fuel` bounds the nesting. -/
def readValue (fuel : Nat) (cs : List Char) : Except String (Json × List Char) :=
  match fuel with
  | 0 => .error "recursion limit exceeded"
  | fuel + 1 =>
    match cs.dropWhile isSpace with
    | 'n' :: 'u' :: 'l' :: 'l' :: rest => .ok (.null, rest)
    | 't' :: 'r' :: 'u' :: 'e' :: rest => .ok (.bool true, rest)
    | 'f' :: 'a' :: 'l' :: 's' :: 'e' :: rest => .ok (.bool false, rest)
    | '"' :: rest => (readString rest []).map fun (s, r) => (.str s, r)
    | '[' :: rest =>
      match rest.dropWhile isSpace with
      | ']' :: after => .ok (.arr [], after)
      | _ => readItems fuel rest []
    | '\x7b' :: rest =>
      match rest.dropWhile isSpace with
      | '\x7d' :: after => .ok (.obj [], after)
      | _ => readMembers fuel rest []
    | c :: rest =>
      if c = '-' ∨ c.isDigit then (readNumber (c :: rest)).map fun (n, r) => (.num n, r)
      else .error "expected value"
    | [] => .error "EOF while parsing a value"

/-- Reads the items of an array after `[`, each followed by `,` or `]`. -/
def readItems (fuel : Nat) (cs : List Char) (acc : List Json) : Except String (Json × List Char) :=
  match fuel with
  | 0 => .error "recursion limit exceeded"
  | fuel + 1 => do
    let (v, rest) ← readValue fuel cs
    match rest.dropWhile isSpace with
    | ',' :: after => readItems fuel after (v :: acc)
    | ']' :: after => .ok (.arr (v :: acc).reverse, after)
    | _ => .error "expected , or ]"

/-- Reads the members of an object after `{`, each followed by `,` or `}`. -/
def readMembers (fuel : Nat) (cs : List Char) (acc : List (String × Json)) :
    Except String (Json × List Char) :=
  match fuel with
  | 0 => .error "recursion limit exceeded"
  | fuel + 1 =>
    match cs.dropWhile isSpace with
    | '"' :: rest => do
      let (key, afterKey) ← readString rest []
      match afterKey.dropWhile isSpace with
      | ':' :: afterColon =>
        let (v, afterValue) ← readValue fuel afterColon
        match afterValue.dropWhile isSpace with
        | ',' :: after => readMembers fuel after ((key, v) :: acc)
        | '\x7d' :: after => .ok (.obj ((key, v) :: acc).reverse, after)
        | _ => .error "expected , or \x7d"
      | _ => .error "expected :"
    | _ => .error "key must be a string"

end

/-- Reads a whole text as one JSON value, with only blanks around it. -/
def read (s : String) : Except String Json := do
  let cs := s.toList
  let (v, rest) ← readValue (2 * cs.length + 2) cs
  if (rest.dropWhile isSpace).isEmpty then pure v else throw "trailing characters"

end ShipSlap.Json
