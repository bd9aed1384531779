import OutlineSearch.Number.Numeral
import OutlineSearch.Text.Quoted

/-!
# Why a numeral is refused

The words for a text that is no integer and for one with too many digits.
-/

namespace OutlineSearch.Number

open OutlineSearch.Text

/-- The words for a text that is no integer in a base; of its quoted form two hundred characters are
shown. -/
def notAnInteger (base : Nat) (s : List Char) : String :=
  s!"invalid literal for int() with base {base}: {String.ofList ((quote s).take 200)}"

/-- The words for an integer with too many digits. -/
def tooManyDigits (digits : Nat) : String :=
  s!"Exceeds the limit ({digitLimit} digits) for integer string conversion: value has {digits} " ++
    "digits; use sys.set_int_max_str_digits() to increase the limit"

/-- The words for an integer that has too many digits to be written. -/
def tooLongToWrite : String :=
  s!"Exceeds the limit ({digitLimit} digits) for integer string conversion; use " ++
    "sys.set_int_max_str_digits() to increase the limit"

/-- The words for a text that is refused as an integer in base ten. -/
def IntegerError.words (s : List Char) : IntegerError → String
  | .malformed => notAnInteger 10 s
  | .tooLong digits => tooManyDigits digits

end OutlineSearch.Number
