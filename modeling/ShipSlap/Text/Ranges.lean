/-!
Tables of code point ranges, the form in which the Unicode standard publishes its character
properties. A class is a sorted list of disjoint inclusive ranges; a property with values is a
sorted list of starts, each value holding from its start up to the next start. Both are written
compactly in hexadecimal and read once into arrays, and both are searched by bisection.
-/
namespace ShipSlap.Text

/-- The value of a run of lowercase hexadecimal digits. -/
def hexValue (t : String) : Nat :=
  t.foldl (fun n c => n * 16 + (if c.isDigit then c.toNat - 48 else c.toNat - 87)) 0

/-- Reads `lo-hi,lo-hi,...` in hexadecimal into inclusive ranges. -/
def readRanges (s : String) : Array (Nat × Nat) :=
  (s.splitOn ",").foldl (fun acc part =>
    match part.splitOn "-" with
    | [lo, hi] => acc.push (hexValue lo, hexValue hi)
    | _ => acc) #[]

/-- Whether `n` lies in one of the sorted inclusive ranges of `rs`, by bisection. -/
def inRanges (rs : Array (Nat × Nat)) (n : Nat) : Bool :=
  go 0 rs.size (rs.size + 1)
where
  /-- Bisection of `rs[lo:hi]`; each step halves the window, so `fuel` never runs out first. -/
  go (lo hi : Nat) : Nat → Bool
    | 0 => false
    | fuel + 1 =>
      if lo < hi then
        let mid := (lo + hi) / 2
        match rs[mid]? with
        | some (a, b) =>
          if n < a then go lo mid fuel
          else if b < n then go (mid + 1) hi fuel
          else true
        | none => false
      else false

/-- Reads `start:value,start:value,...`, each start in hexadecimal and each value decoded by
`value`; entries whose value does not decode are left out. -/
def readStarts {α : Type} (value : String → Option α) (s : String) : Array (Nat × α) :=
  (s.splitOn ",").foldl (fun acc part =>
    match part.splitOn ":" with
    | [start, v] => match value v with
      | some a => acc.push (hexValue start, a)
      | none => acc
    | _ => acc) #[]

/-- The entry with the greatest start at most `n`, by bisection; `none` below the first
start. -/
def entryAt {α : Type} (t : Array (Nat × α)) (n : Nat) : Option (Nat × α) :=
  go 0 t.size (t.size + 1)
where
  /-- Bisection of the entries `t[lo:hi]` whose start is at most `n`; the answer is the last
  of them, and each step halves the window. -/
  go (lo hi : Nat) : Nat → Option (Nat × α)
    | 0 => none
    | fuel + 1 =>
      if lo + 1 < hi then
        let mid := (lo + hi) / 2
        match t[mid]? with
        | some (a, _) => if n < a then go lo mid fuel else go mid hi fuel
        | none => none
      else
        match t[lo]? with
        | some (a, v) => if a ≤ n then some (a, v) else none
        | none => none

/-- The value of the entry with the greatest start at most `n`. -/
def valueAt {α : Type} (t : Array (Nat × α)) (n : Nat) : Option α :=
  (entryAt t n).map Prod.snd

end ShipSlap.Text
