import OutlineSearch.Text.Class

/-!
# Quoted texts

A quoted text stands between single quotes, or between double quotes when it holds a single quote
and no double one. The quote and the backslash are written behind a backslash, characters that are
not printable by their code in hexadecimal.
-/

namespace OutlineSearch.Text

/-- The hexadecimal digits of a number, padded with zeros to a width. -/
def hex (width n : Nat) : List Char :=
  let digits := Nat.toDigits 16 n
  List.replicate (width - digits.length) '0' ++ digits

/-- A character as it is written inside quotes. -/
def quoteChar (quote c : Char) : List Char :=
  if c == quote || c == '\\' then ['\\', c]
  else if c == '\n' then ['\\', 'n']
  else if c == '\r' then ['\\', 'r']
  else if c == '\t' then ['\\', 't']
  else if isPrintable c then [c]
  else
    let n := c.toNat
    if n < 0x100 then '\\' :: 'x' :: hex 2 n
    else if n < 0x10000 then '\\' :: 'u' :: hex 4 n
    else '\\' :: 'U' :: hex 8 n

/-- The quote that a text is written between. -/
def quoteFor (s : List Char) : Char := if s.contains '\'' && !s.contains '"' then '"' else '\''

/-- The text between quotes. -/
def quote (s : List Char) : List Char :=
  let q := quoteFor s
  q :: (s.flatMap (quoteChar q) ++ [q])

/-- The string between quotes. -/
def quoted (s : String) : String := String.ofList (quote s.toList)

end OutlineSearch.Text
