import ShipSlap.Text.Utf8
import ShipSlap.Url.Percent
/-!
Form-encoded text (`application/x-www-form-urlencoded`), the `key=value&key=value` form of a
query. Pieces are separated by `&` and empty pieces are skipped; a piece is cut at its first
`=` (a piece without one has an empty value); in keys and values `+` stands for a space and
`%` with two hexadecimal digits for a byte, and bytes that are not UTF-8 become U+FFFD.
-/
namespace ShipSlap.Url

/-- Decodes one key or value of form-encoded text. -/
def formDecode (bs : Bytes) : String :=
  Text.decodeUtf8Lossy (percentDecode (bs.map fun b => if b = 43 then 32 else b))

/-- The key and value pairs of form-encoded text, in order. -/
def formPairs (query : String) : List (String × String) :=
  ((Bytes.ofString query).splitOn 38).filterMap fun piece =>
    if piece.isEmpty then none
    else
      let key := piece.takeWhile (· ≠ 61)
      let value := (piece.dropWhile (· ≠ 61)).drop 1
      some (formDecode key, formDecode value)

/-- The value of the first pair with the given key. -/
def formLookup (pairs : List (String × String)) (key : String) : Option String :=
  (pairs.find? (·.1 = key)).map (·.2)

end ShipSlap.Url
