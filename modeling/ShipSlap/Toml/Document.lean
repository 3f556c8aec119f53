import ShipSlap.Toml.Scalar
/-!
Reading a TOML document into its table. A document is a sequence of lines: blank lines,
comments, key/value pairs, table headers `[a.b]` and array-of-tables headers `[[a.b]]`. Values
are scalars, arrays (over several lines, with comments, a trailing comma allowed) and inline
tables (on one line).

A name is bound once. A table is defined once: by its header, or by the dotted keys that
create it; a header may still define a table that only a longer header implied, dotted keys
may only extend tables that dotted keys made, and inline tables and arrays are closed.
-/
namespace ShipSlap.Toml

/-- An entry of a table being read: a value; a table, with whether it is only implied so far
and whether dotted keys made it; or an array of tables. -/
inductive Entry where
  | value (v : TomlValue)
  | table (implicit dotted : Bool) (entries : List (String × Entry))
  | tables (items : List (List (String × Entry)))

/-- The entries of a table being read. -/
abbrev Entries := List (String × Entry)

/-- The entry bound to a name. -/
def getEntry (es : Entries) (k : String) : Option Entry :=
  (es.find? (·.1 == k)).map (·.2)

/-- The entries with the one bound to `k` replaced. -/
def setEntry (es : Entries) (k : String) (e : Entry) : Entries :=
  es.map fun (k', e') => if k' == k then (k, e) else (k', e')

/-- Walks down `path` from a table (dotted or not, as `isDotted` says), creating implied
tables on the way (made by dotted keys when `dotted`), and changes the table reached by `f`,
which is told whether that table is dotted. An array of tables is entered at its last table.
The walk fails on a value in the way, and, for dotted keys, on a table a header defined. -/
def descend (dotted : Bool) (f : Bool → Entries → Option Entries) :
    List String → Bool → Entries → Option Entries
  | [], isDotted, es => f isDotted es
  | k :: ks, _, es =>
    match getEntry es k with
    | none => do
      let sub ← descend dotted f ks dotted []
      some (es ++ [(k, .table true dotted sub)])
    | some (.value _) => none
    | some (.tables items) =>
      match items.getLast? with
      | some last => do
        let sub ← descend dotted f ks false last
        some (setEntry es k (.tables (items.dropLast ++ [sub])))
      | none => none
    | some (.table imp dot sub) =>
      if dotted && !imp then none
      else do
        let sub' ← descend dotted f ks dot sub
        some (setEntry es k (.table imp dot sub'))

/-- Binds `k` to `v` in the table reached by the dotted key `keyPath`: that table must have
been made by dotted keys exactly when the key is dotted, and `k` must be free. -/
def bindValue (keyPath : List String) (k : String) (v : TomlValue) (isDotted : Bool)
    (es : Entries) : Option Entries :=
  if isDotted == keyPath.isEmpty then none
  else if (getEntry es k).isSome then none
  else some (es ++ [(k, .value v)])

/-- Binds the dotted key `path` to `v` in the table at `current`. -/
def bindAt (current path : List String) (v : TomlValue) (root : Entries) : Option Entries :=
  match path.reverse with
  | [] => none
  | k :: revKeyPath =>
    let keyPath := revKeyPath.reverse
    descend false (fun _ es => descend true (bindValue keyPath k v) keyPath false es) current
      false root

/-- Defines the table `path` by a header: it must be new, or so far only implied by a longer
header. -/
def openTable (path : List String) (root : Entries) : Option Entries :=
  match path.reverse with
  | [] => none
  | k :: revParent =>
    descend false (fun _ es =>
      match getEntry es k with
      | none => some (es ++ [(k, .table false false [])])
      | some (.table true false sub) => some (setEntry es k (.table false false sub))
      | _ => none) revParent.reverse false root

/-- Adds a table to the array of tables `path`, which must be new or an array of tables. -/
def openArrayTable (path : List String) (root : Entries) : Option Entries :=
  match path.reverse with
  | [] => none
  | k :: revParent =>
    descend false (fun _ es =>
      match getEntry es k with
      | none => some (es ++ [(k, .tables [[]])])
      | some (.tables items) => some (setEntry es k (.tables (items ++ [[]])))
      | _ => none) revParent.reverse false root

mutual
/-- The value of an entry. -/
def Entry.toValue : Entry → TomlValue
  | .value v => v
  | .table _ _ es => .table (entriesToValue es)
  | .tables items => .arr (tablesToValue items)

/-- The values of a table's entries. -/
def entriesToValue : List (String × Entry) → List (String × TomlValue)
  | [] => []
  | (k, e) :: rest => (k, e.toValue) :: entriesToValue rest

/-- The values of the tables of an array of tables. -/
def tablesToValue : List (List (String × Entry)) → List TomlValue
  | [] => []
  | es :: rest => .table (entriesToValue es) :: tablesToValue rest
end

/-- Skips a comment from its `#` up to the line break; controls other than the tab may not
stand in it. -/
def skipComment : List Char → Option (List Char)
  | [] => some []
  | '\n' :: rest => some ('\n' :: rest)
  | '\r' :: '\n' :: rest => some ('\r' :: '\n' :: rest)
  | c :: rest => if isForbiddenControl c then none else skipComment rest

/-- Skips blanks, line breaks and comments, as arrays allow between their items. -/
def skipBlank : Nat → List Char → Option (List Char)
  | 0, _ => none
  | fuel + 1, cs =>
    match skipSpaces cs with
    | '\n' :: rest => skipBlank fuel rest
    | '\r' :: '\n' :: rest => skipBlank fuel rest
    | '#' :: rest => do skipBlank fuel (← skipComment rest)
    | rest => some rest

/-- The end of a line: blanks, an optional comment, then a line break or the end of the text;
gives the text after the line break. -/
def lineEnd (cs : List Char) : Option (List Char) := do
  let cs ← match skipSpaces cs with
    | '#' :: rest => skipComment rest
    | rest => some rest
  match cs with
  | [] => some []
  | '\n' :: rest => some rest
  | '\r' :: '\n' :: rest => some rest
  | _ => none

mutual
/-- A value: a string, an array, an inline table, or a number, date or boolean. -/
def readValue : Nat → List Char → Option (TomlValue × List Char)
  | 0, _ => none
  | fuel + 1, cs =>
    match cs with
    | '"' :: _ => (readString cs).map fun (s, r) => (.str s, r)
    | '\'' :: _ => (readString cs).map fun (s, r) => (.str s, r)
    | '[' :: rest => readArray fuel [] rest
    | '{' :: rest => readInline fuel true [] rest
    | _ => readAtom cs

/-- The items of an array after its opening bracket, `acc` holding those read (last first). -/
def readArray : Nat → List TomlValue → List Char → Option (TomlValue × List Char)
  | 0, _, _ => none
  | fuel + 1, acc, cs => do
    match ← skipBlank (cs.length + 1) cs with
    | ']' :: rest => some (.arr acc.reverse, rest)
    | start => do
      let (v, r) ← readValue fuel start
      match ← skipBlank (r.length + 1) r with
      | ',' :: more => readArray fuel (v :: acc) more
      | ']' :: more => some (.arr (v :: acc).reverse, more)
      | _ => none

/-- The pairs of an inline table after its opening brace, on one line; `first` says that no
pair has been read, so that the table may close at once. -/
def readInline : Nat → Bool → Entries → List Char → Option (TomlValue × List Char)
  | 0, _, _, _ => none
  | fuel + 1, first, es, cs =>
    match skipSpaces cs with
    | '}' :: rest => if first then some (.table [], rest) else none
    | start => do
      let (path, r) ← dottedKey (start.length + 1) start
      let r ← match skipSpaces r with
        | '=' :: more => some (skipSpaces more)
        | _ => none
      let (v, r) ← readValue fuel r
      let es ← bindAt [] path v es
      match skipSpaces r with
      | ',' :: more => readInline fuel false es more
      | '}' :: more => some (.table (entriesToValue es), more)
      | _ => none
end

/-- Reads the lines of a document into `root`, key/value pairs going into the table at
`current`. -/
def readLines : Nat → Entries → List String → List Char → Option Entries
  | 0, _, _, _ => none
  | fuel + 1, root, current, cs =>
    match skipSpaces cs with
    | [] => some root
    | '\n' :: rest => readLines fuel root current rest
    | '\r' :: '\n' :: rest => readLines fuel root current rest
    | '#' :: rest => do readLines fuel root current (← lineEnd ('#' :: rest))
    | '[' :: '[' :: rest => do
      let (path, r) ← dottedKey (rest.length + 1) rest
      match skipSpaces r with
      | ']' :: ']' :: after =>
        readLines fuel (← openArrayTable path root) path (← lineEnd after)
      | _ => none
    | '[' :: rest => do
      let (path, r) ← dottedKey (rest.length + 1) rest
      match skipSpaces r with
      | ']' :: after => readLines fuel (← openTable path root) path (← lineEnd after)
      | _ => none
    | start => do
      let (path, r) ← dottedKey (start.length + 1) start
      let r ← match skipSpaces r with
        | '=' :: more => some (skipSpaces more)
        | _ => none
      let (v, r) ← readValue (2 * r.length + 2) r
      readLines fuel (← bindAt current path v root) current (← lineEnd r)

/-- Reads a TOML document into its table, or `none` if it is not valid TOML. A byte order
mark at the start is skipped. -/
def read (text : String) : Option (List (String × TomlValue)) :=
  let cs := match text.toList with
    | c :: rest => if c.toNat = 0xFEFF then rest else c :: rest
    | [] => []
  (readLines (cs.length + 1) [] [] cs).map entriesToValue

end ShipSlap.Toml
