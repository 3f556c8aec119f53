import ShipSlap.Text.Printable
/-!
Quoted text: a string or a character between quote marks, with the characters that could not be
read back written as escapes. The backslash, the quote mark in use and the five controls NUL, tab,
carriage return and line feed get short escapes; grapheme extenders and characters that are not
printable get `\u` with their code point in hexadecimal between braces; all others stand as they
are.
-/
namespace ShipSlap.Text

/-- Lowercase hexadecimal digits of a number, without leading zeros. -/
def hexDigits (n : Nat) : String :=
  String.ofList (Nat.toDigits 16 n)

/-- How one character is written between the quote marks `mark`. -/
def escapeChar (mark : Char) (c : Char) : String :=
  if c = '\x00' then "\\0"
  else if c = '\t' then "\\t"
  else if c = '\r' then "\\r"
  else if c = '\n' then "\\n"
  else if c = '\\' then "\\\\"
  else if c = mark then "\\" ++ c.toString
  else if isGraphemeExtend c || !isPrintable c then "\\u\x7b" ++ hexDigits c.toNat ++ "\x7d"
  else c.toString

/-- A string between double quotes, escaped. -/
def quote (s : String) : String :=
  "\"" ++ String.join (s.toList.map (escapeChar '"')) ++ "\""

/-- A character between single quotes, escaped. -/
def quoteChar (c : Char) : String :=
  "'" ++ escapeChar '\'' c ++ "'"

end ShipSlap.Text
