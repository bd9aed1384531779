import OutlineSearch.Text.Utf8

/-!
# Percent escapes

Two hexadecimal digits behind a percent sign stand for a byte. The bytes of a run of ASCII
characters are read as UTF-8, what cannot be read becoming the replacement character; other
characters stand for themselves.
-/

namespace OutlineSearch.Text

/-- The value of a hexadecimal digit. -/
def hexDigit? (c : Char) : Option Nat :=
  if c.isDigit then some (c.toNat - 48)
  else if 'a' ≤ c && c ≤ 'f' then some (c.toNat - 87)
  else if 'A' ≤ c && c ≤ 'F' then some (c.toNat - 55)
  else none

/-- The bytes of a run of ASCII characters. -/
def percentBytes : List Char → List Nat
  | '%' :: a :: b :: rest =>
    match hexDigit? a, hexDigit? b with
    | some m, some n => (16 * m + n) :: percentBytes rest
    | _, _ => 37 :: percentBytes (a :: b :: rest)
  | c :: rest => c.toNat :: percentBytes rest
  | [] => []

/-- The text that is escaped, `run` being the reversed run of ASCII characters in front. -/
def unescapePercentFrom (run : List Char) : List Char → List Char
  | [] => decodeLenient (percentBytes run.reverse)
  | c :: rest =>
    if c.toNat < 128 then unescapePercentFrom (c :: run) rest
    else decodeLenient (percentBytes run.reverse) ++ c :: unescapePercentFrom [] rest

/-- The text that is escaped. -/
def unescapePercent (s : List Char) : List Char := unescapePercentFrom [] s

end OutlineSearch.Text
