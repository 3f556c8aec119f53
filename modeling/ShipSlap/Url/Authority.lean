import ShipSlap.Url.Host
/-!
The authority of a web address whose scheme has hosts of its own (`https`, `wss`, ...). After
the scheme's colon come any number of slashes or backslashes, an optional user part that ends
at the last `@` before the path, the host, and an optional port. Controls and spaces at the
end of the address are dropped, and tabs and line breaks anywhere in it are ignored. The path,
query and fragment that follow cannot make the address invalid.
-/
namespace ShipSlap.Url

/-- The host and port of a web address; the port is left out when it is the scheme's own. -/
structure Authority where
  host : Host
  port : Option Nat
  deriving Repr, DecidableEq

/-- A character that ends the authority: `/`, `\`, `?` or `#`. -/
def endsAuthority (c : Char) : Bool :=
  c = '/' || c = '\\' || c = '?' || c = '#'

/-- A tab or line break, which an address may hold anywhere and which counts for nothing. -/
def isIgnorable (c : Char) : Bool :=
  c = '\t' || c = '\n' || c = '\r'

/-- The position of the last `@` before the end of the authority. -/
def lastAt? (cs : List Char) : Option Nat :=
  (cs.takeWhile (!endsAuthority ·)).zipIdx.foldl
    (fun found (c, i) => if c = '@' then some i else found) none

/-- What follows the user part. A user part that is empty and followed directly by the end
of the authority leaves no host. -/
def skipUserinfo (cs : List Char) : Except UrlError (List Char) :=
  match lastAt? cs with
  | none => .ok cs
  | some 0 =>
    match cs.drop 1 with
    | c :: _ => if endsAuthority c then .error .emptyHost else .ok (cs.drop 1)
    | [] => .ok []
  | some i => .ok (cs.drop (i + 1))

/-- Splits off the host: it ends at a `:` outside brackets or at the end of the authority. -/
def splitHost (inBrackets : Bool) : List Char → List Char × List Char
  | [] => ([], [])
  | c :: rest =>
    if (c = ':' ∧ !inBrackets) ∨ endsAuthority c then ([], c :: rest)
    else
      let inside := if c = '[' then true else if c = ']' then false else inBrackets
      let (host, after) := splitHost inside rest
      (c :: host, after)

/-- Reads the digits of a port, each prefix at most 65535, up to the end of the authority. -/
def readPort (acc : Option Nat) : List Char → Except UrlError (Option Nat)
  | [] => .ok acc
  | c :: rest =>
    if c.isDigit then
      let v := acc.getD 0 * 10 + (c.toNat - 48)
      if 65535 < v then .error .invalidPort else readPort (some v) rest
    else if endsAuthority c then .ok acc
    else .error .invalidPort

/-- Reads the authority from the text after the scheme's colon, for a scheme whose own port
is `defaultPort`. -/
def Authority.parse (defaultPort : Nat) (afterScheme : String) : Except UrlError Authority := do
  let cs := (afterScheme.toList.reverse.dropWhile (·.toNat ≤ 0x20)).reverse
  let cs := cs.filter (!isIgnorable ·)
  let cs := cs.dropWhile (fun c => c = '/' || c = '\\')
  let cs ← skipUserinfo cs
  let (hostText, after) := splitHost false cs
  if hostText.isEmpty then throw .emptyHost
  let host ← Host.parse (String.ofList hostText)
  let port ← match after with
    | ':' :: rest => readPort none rest
    | _ => pure none
  return ⟨host, if port = some defaultPort then none else port⟩

end ShipSlap.Url
