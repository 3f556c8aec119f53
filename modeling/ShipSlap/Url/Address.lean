/-!
Numeric hosts of web addresses.

An IPv4 host is one to four numbers separated by dots, a last empty part being dropped. Each
number is hexadecimal after `0x`, octal after a leading `0`, and decimal otherwise; all but the
last are single bytes, and the last fills the bytes that the others leave.

An IPv6 host, written between brackets, is eight groups of up to four hexadecimal digits
separated by colons; one run of groups may be left out as `::`, and the last two groups may be
written as four dotted decimal bytes.
-/
namespace ShipSlap.Url

/-- The value of a digit in base 8, 10 or 16 (letters in either case for 16). -/
def digitIn (base : Nat) (c : Char) : Option Nat :=
  let d :=
    if '0' ≤ c ∧ c ≤ '9' then some (c.toNat - 48)
    else if 'a' ≤ c ∧ c ≤ 'f' then some (c.toNat - 87)
    else if 'A' ≤ c ∧ c ≤ 'F' then some (c.toNat - 55)
    else none
  d.bind fun v => if v < base then some v else none

/-- The value of a run of digits in a base; zero for no digits. -/
def digitsValue (base : Nat) (cs : List Char) : Option Nat :=
  cs.foldlM (fun acc c => (digitIn base c).map (acc * base + ·)) 0

/-- The number that one part of an IPv4 host spells, however large; `none` if the part is
empty or holds a digit its base does not have. -/
def ipv4Number? : List Char → Option Nat
  | [] => none
  | '0' :: 'x' :: rest => digitsValue 16 rest
  | '0' :: 'X' :: rest => digitsValue 16 rest
  | '0' :: d :: rest => digitsValue 8 (d :: rest)
  | part => digitsValue 10 part

/-- Whether a host ends in a number, so that it must be read as an IPv4 address: its last
part (or the one before a final dot) is all decimal digits or a number in the sense of
`ipv4Number?`. -/
def endsInNumber (host : List Char) : Bool :=
  let last := match (host.splitOn '.').reverse with
    | [] :: prev :: _ => some prev
    | [] :: [] => none
    | part :: _ => some part
    | [] => none
  match last with
  | some part => (!part.isEmpty && part.all Char.isDigit) || (ipv4Number? part).isSome
  | none => false

/-- An IPv4 address, as its 32-bit number. -/
structure Ipv4 where
  value : Nat
  deriving Repr, DecidableEq

/-- Reads an IPv4 host: at most four parts after a final empty one is dropped, each a
number; the last below `256 ^ (5 - count)`, the others below 256. -/
def Ipv4.parse? (host : List Char) : Option Ipv4 := do
  let parts := host.splitOn '.'
  let parts := if parts.getLast? = some [] then parts.dropLast else parts
  if 4 < parts.length then none
  let numbers ← parts.mapM ipv4Number?
  match numbers.reverse with
  | [] => none
  | last :: firsts =>
    if Nat.pow 2 (8 * (4 - firsts.length)) ≤ last ∨ firsts.any (256 ≤ ·) then none
    else
      let high := numbers.dropLast.zipIdx.foldl
        (fun acc (n, i) => acc + n * Nat.pow 2 (8 * (3 - i))) 0
      some ⟨high + last⟩

/-- The dotted decimal text of an IPv4 address. -/
def Ipv4.text (a : Ipv4) : String :=
  String.intercalate "." ([3, 2, 1, 0].map fun i => toString (a.value / Nat.pow 2 (8 * i) % 256))

/-- An IPv6 address, as its eight 16-bit groups. -/
structure Ipv6 where
  groups : List Nat
  deriving Repr, DecidableEq

/-- Reads up to `limit` hexadecimal digits: their value, how many, and the rest. -/
def takeHex : Nat → Nat → List Char → Nat × Nat × List Char
  | 0, value, cs => (value, 0, cs)
  | limit + 1, value, c :: rest =>
    match digitIn 16 c with
    | some d =>
      let (v, n, after) := takeHex limit (value * 16 + d) rest
      (v, n + 1, after)
    | none => (value, 0, c :: rest)
  | _ + 1, value, [] => (value, 0, [])

/-- Reads one decimal byte of a dotted tail: `none` on a leading zero followed by a digit or
on a value above 255; otherwise the value (if there was a digit) and the rest. -/
def takeByte : Option Nat → List Char → Option (Option Nat × List Char)
  | acc, c :: rest =>
    if c.isDigit then
      let d := c.toNat - 48
      match acc with
      | none => takeByte (some d) rest
      | some 0 => none
      | some v => if 255 < v * 10 + d then none else takeByte (some (v * 10 + d)) rest
    else some (acc, c :: rest)
  | acc, [] => some (acc, [])

/-- The dotted tail of an IPv6 host: four decimal bytes that fill two groups, starting at
group `index`. -/
def dottedTail (fuel : Nat) (groups : Array Nat) (index seen : Nat) (cs : List Char) :
    Option (Array Nat × Nat) :=
  match fuel, cs with
  | _, [] => if seen = 4 then some (groups, index) else none
  | 0, _ :: _ => none
  | fuel + 1, c :: rest => do
    let body ← if seen = 0 then some (c :: rest)
      else if seen < 4 ∧ c = '.' then some rest else none
    let (byte?, after) ← takeByte none body
    let byte ← byte?
    let groups := groups.set! index (groups.getD index 0 * 256 + byte)
    let seen := seen + 1
    dottedTail fuel groups (if seen = 2 ∨ seen = 4 then index + 1 else index) seen after

/-- The groups of an IPv6 host, written from group `index`, with `gap` the group where `::`
stood: gives the groups, how many were written, and the gap. -/
def hexGroups (fuel : Nat) (groups : Array Nat) (index : Nat) (gap : Option Nat)
    (cs : List Char) : Option (Array Nat × Nat × Option Nat) :=
  match fuel, cs with
  | _, [] => some (groups, index, gap)
  | 0, _ :: _ => none
  | fuel + 1, c :: rest =>
    if index = 8 then none
    else if c = ':' then
      if gap.isSome then none else hexGroups fuel groups (index + 1) (some (index + 1)) rest
    else
      let (value, n, after) := takeHex 4 0 (c :: rest)
      match after with
      | '.' :: _ =>
        if n = 0 ∨ 6 < index then none
        else (dottedTail (fuel + 1) groups index 0 (c :: rest)).map fun (g, i) => (g, i, gap)
      | [':'] => none
      | ':' :: more => hexGroups fuel (groups.set! index value) (index + 1) gap more
      | [] => some (groups.set! index value, index + 1, gap)
      | _ :: _ => none

/-- Reads the text between the brackets of an IPv6 host. -/
def Ipv6.parse? (text : List Char) : Option Ipv6 := do
  let (index, gap, rest) ← match text with
    | [] | [_] => none
    | ':' :: ':' :: rest => some (1, some 1, rest)
    | ':' :: _ => none
    | _ => some (0, none, text)
  let (groups, written, gap) ←
    hexGroups (rest.length + 1) (Array.replicate 8 0) index gap rest
  let groups := groups.toList
  match gap with
  | some g => some ⟨groups.take g ++ List.replicate (8 - written) 0 ++ (groups.take written).drop g⟩
  | none => if written = 8 then some ⟨groups⟩ else none

/-- The start and length of the first longest run of at least two zero groups. -/
def longestZeroRun (groups : List Nat) : Option (Nat × Nat) :=
  let step := fun (acc : Option (Nat × Nat) × Nat × Nat) (p : Nat × Nat) =>
    let (best, runStart, runLen) := acc
    let (g, i) := p
    if g = 0 then
      let runStart := if runLen = 0 then i else runStart
      let runLen := runLen + 1
      let better : Bool := match best with
        | some (_, len) => decide (len < runLen)
        | none => decide (2 ≤ runLen)
      (if better then some (runStart, runLen) else best, runStart, runLen)
    else (best, runStart, 0)
  (groups.zipIdx.foldl step (none, 0, 0)).1

/-- Lowercase hexadecimal digits of a number, without leading zeros. -/
def hexText (n : Nat) : String :=
  String.ofList (Nat.toDigits 16 n)

/-- The text of an IPv6 address: groups in lowercase hexadecimal separated by colons, the
first longest run of two or more zero groups written `::`. -/
def Ipv6.text (a : Ipv6) : String :=
  let part := fun (gs : List Nat) => String.intercalate ":" (gs.map hexText)
  match longestZeroRun a.groups with
  | some (start, len) =>
    part (a.groups.take start) ++ "::" ++ part (a.groups.drop (start + len))
  | none => part a.groups

end ShipSlap.Url
