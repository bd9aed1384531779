import OutlineSearch.Number.Binary64
import OutlineSearch.Text.Class

/-!
# Reading numbers

Two spellings of numbers are read here. A *free* numeral may stand between blanks, use the decimal
digits of any script and have single underscores between digits; a *plain* numeral is ASCII only.
Both end in the same decimal `± digits * 10 ^ exponent`, which is then rounded once.
-/

namespace OutlineSearch.Number

open OutlineSearch.Text

/-- The greatest number of digits that an integer may be written with. -/
def digitLimit : Nat := 4300

/-- The value of a list of digits. -/
def ofDigits (digits : List Nat) : Nat := digits.foldl (fun n d => n * 10 + d) 0

/-- The floating point number nearest to `± n * 10 ^ exponent`. Beyond a thousand places either way
the result does not depend on the exponent any more. -/
def ofDecimal (negative : Bool) (n : Nat) (exponent : Int) : Binary64 :=
  let places := (Nat.toDigits 10 n).length
  if n = 0 then (if negative then .negativeZero else .finite 0)
  else if 1000 < exponent + places then .infinite negative
  else if exponent + places < -1000 then (if negative then .negativeZero else .finite 0)
  else if 0 ≤ exponent then Binary64.ofMagnitude negative (n * Nat.pow 10 exponent.toNat) 1
  else Binary64.ofMagnitude negative n (Nat.pow 10 (-exponent).toNat)

/-- Why a text is not an integer. -/
inductive IntegerError where
  | malformed
  | tooLong (digits : Nat)
deriving DecidableEq, Repr

/-- A sign and the text behind it. -/
def readSign : List Char → Bool × List Char
  | '-' :: rest => (true, rest)
  | '+' :: rest => (false, rest)
  | s => (false, s)

/-- The value of a digit up to `base`, letters counting from ten. -/
def baseDigit? (base : Nat) (c : Char) : Option Nat :=
  let value :=
    match digitValue? c with
    | some d => some d
    | none =>
      if 'a' ≤ c ∧ c ≤ 'z' then some (c.toNat - 87)
      else if 'A' ≤ c ∧ c ≤ 'Z' then some (c.toNat - 55)
      else none
  value.filter (· < base)

/-- The digits of a text of digits with single underscores between them. -/
def readDigits? (base : Nat) : List Char → Option (List Nat)
  | [] => none
  | [c] => (baseDigit? base c).map ([·])
  | c :: '_' :: rest => do
    let d ← baseDigit? base c
    let ds ← readDigits? base rest
    return d :: ds
  | c :: rest => do
    let d ← baseDigit? base c
    let ds ← readDigits? base rest
    return d :: ds

/-- The integer that a free numeral in base ten spells. -/
def readInteger (s : List Char) : Except IntegerError Int :=
  let (negative, rest) := readSign (trim s)
  match readDigits? 10 rest with
  | none => .error .malformed
  | some digits =>
    if digitLimit < digits.length then .error (.tooLong digits.length)
    else
      let n : Int := ofDigits digits
      .ok (if negative then -n else n)

/-- The integer that a free numeral in a base that is a power of two spells. -/
def readInBase? (base : Nat) (s : List Char) : Option Int :=
  let (negative, rest) := readSign (trim s)
  (readDigits? base rest).map fun digits =>
    let n : Nat := digits.foldl (fun n d => n * base + d) 0
    if negative then -(n : Int) else n

/-- The decimal digits at the start of a text, and the rest. -/
def spanDigits : List Char → List Nat × List Char
  | [] => ([], [])
  | c :: rest =>
    match digitValue? c with
    | some d =>
      let (ds, rest') := spanDigits rest
      (d :: ds, rest')
    | none => ([], c :: rest)

/-- The text without its single underscores between digits, or nothing when another one is left. -/
def dropUnderscores? (afterDigit : Bool) : List Char → Option (List Char)
  | [] => some []
  | '_' :: c :: rest =>
    if afterDigit && isDecimal c then (dropUnderscores? true rest).map (c :: ·) else none
  | c :: rest =>
    if c == '_' then none else (dropUnderscores? (isDecimal c) rest).map (c :: ·)

/-- The exponent at the start of a text, or zero when there is none. -/
def readExponent? : List Char → Option Int
  | [] => some 0
  | c :: rest =>
    if c == 'e' || c == 'E' then
      let (negative, rest) := readSign rest
      match spanDigits rest with
      | (d :: ds, []) =>
        let n : Int := ofDigits (d :: ds)
        some (if negative then -n else n)
      | _ => none
    else none

/-- The floating point number that a numeral without blanks and underscores spells. -/
def readUnsigned? (negative : Bool) (s : List Char) : Option Binary64 :=
  let name := s.map Char.toLower
  if name == "inf".toList || name == "infinity".toList then some (.infinite negative)
  else if name == "nan".toList then some .nan
  else
    let (whole, rest) := spanDigits s
    let (fraction, rest) :=
      match rest with
      | '.' :: more => spanDigits more
      | _ => ([], rest)
    if whole.isEmpty && fraction.isEmpty then none
    else
      (readExponent? rest).map fun e =>
        ofDecimal negative (ofDigits (whole ++ fraction)) (e - fraction.length)

/-- The floating point number that a free numeral spells. -/
def readFloat? (s : List Char) : Option Binary64 := do
  let s ← dropUnderscores? false (trim s)
  let (negative, rest) := readSign s
  readUnsigned? negative rest

end OutlineSearch.Number
