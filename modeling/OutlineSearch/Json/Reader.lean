import OutlineSearch.Json
import OutlineSearch.Number.Numeral
import OutlineSearch.Text.Split

/-!
# Reading JSON

The reader accepts the JSON grammar and the three names `NaN`, `Infinity` and `-Infinity`. A number
without fraction and exponent is an integer, of at most `digitLimit` digits. Of members with one
name the last gives the value and the first the place. The depth of nesting is bounded by the
length of the text, so the length serves as fuel.
-/

namespace OutlineSearch.Json

open OutlineSearch.Text OutlineSearch.Number

/-- The text without the blanks that JSON allows between tokens. -/
def skipBlanks (s : List Char) : List Char :=
  s.dropWhile fun c => c == ' ' || c == '\t' || c == '\n' || c == '\r'

/-- The value of four hexadecimal digits. -/
def readHex4? : List Char → Option (Nat × List Char)
  | a :: b :: c :: d :: rest =>
    if [a, b, c, d].all (fun x => x.isDigit || ('a' ≤ x && x ≤ 'f') || ('A' ≤ x && x ≤ 'F')) then
      (readInBase? 16 [a, b, c, d]).map fun n => (n.toNat, rest)
    else none
  | _ => none

/-- The character of a code unit of a `\u` escape, which may be the first half of a pair. A half
without its other half becomes the replacement character. -/
def readUnit? (s : List Char) : Option (Char × List Char) := do
  let (n, rest) ← readHex4? s
  if 0xD800 ≤ n ∧ n < 0xDC00 then
    match rest with
    | '\\' :: 'u' :: more =>
      match readHex4? more with
      | some (m, rest') =>
        if 0xDC00 ≤ m ∧ m < 0xE000 then
          return (Char.ofNat (0x10000 + (n - 0xD800) * 0x400 + (m - 0xDC00)), rest')
        else return ('\uFFFD', rest)
      | none => return ('\uFFFD', rest)
    | _ => return ('\uFFFD', rest)
  else if 0xDC00 ≤ n ∧ n < 0xE000 then return ('\uFFFD', rest)
  else return (Char.ofNat n, rest)

/-- The character of an escape of one letter. -/
def simpleEscape? : Char → Option Char
  | '"' => some '"'
  | '\\' => some '\\'
  | '/' => some '/'
  | 'b' => some '\x08'
  | 'f' => some '\x0c'
  | 'n' => some '\n'
  | 'r' => some '\r'
  | 't' => some '\t'
  | _ => none

/-- The characters up to the closing quote, and the rest behind it. -/
def readString? : (fuel : Nat) → List Char → Option (List Char × List Char)
  | 0, _ => none
  | _, [] => none
  | fuel + 1, c :: rest =>
    if c == '"' then some ([], rest)
    else if c == '\\' then
      match rest with
      | 'u' :: more => do
        let (d, rest) ← readUnit? more
        let (ds, rest) ← readString? fuel rest
        return (d :: ds, rest)
      | e :: more => do
        let d ← simpleEscape? e
        let (ds, rest) ← readString? fuel more
        return (d :: ds, rest)
      | [] => none
    else if c.toNat < 0x20 then none
    else do
      let (ds, rest) ← readString? fuel rest
      return (c :: ds, rest)

/-- The ASCII digits at the start of a text, and the rest. -/
def spanPlain (s : List Char) : List Char × List Char := s.span Char.isDigit

/-- The exponent mark with at least one digit, and the rest; nothing is read when no digit
follows. -/
def readMark (s : List Char) : Option Int × List Char :=
  match s with
  | c :: rest =>
    if c == 'e' || c == 'E' then
      let (negative, more) := readSign rest
      let (digits, more) := spanPlain more
      if digits.isEmpty then (none, s)
      else
        let n : Int := ofDigits (digits.map fun d => d.toNat - 48)
        (some (if negative then -n else n), more)
    else (none, s)
  | [] => (none, s)

/-- The fraction digits behind a point, and the rest; nothing is read when no digit follows. -/
def readFraction (s : List Char) : List Char × List Char :=
  match s with
  | '.' :: rest =>
    let (digits, more) := spanPlain rest
    if digits.isEmpty then ([], s) else (digits, more)
  | _ => ([], s)

/-- The number at the start of a text behind its sign, and the rest. -/
def readNumber? (negative : Bool) (s : List Char) : Option (Json × List Char) :=
  let (whole, rest) := spanPlain s
  let (whole, rest) :=
    match whole with
    | '0' :: d :: more => (['0'], d :: more ++ rest)
    | _ => (whole, rest)
  if whole.isEmpty then none
  else
    let (fraction, rest) := readFraction rest
    let (mark, rest) := readMark rest
    let value (digits : List Char) : Nat := ofDigits (digits.map fun d => d.toNat - 48)
    if fraction.isEmpty && mark.isNone then
      if digitLimit < whole.length then none
      else
        let n : Int := value whole
        some (int (if negative then -n else n), rest)
    else
      some (float (ofDecimal negative (value (whole ++ fraction))
        (mark.getD 0 - fraction.length)), rest)

/-- The documents that are written as a name. -/
def names : List (String × Json) :=
  [("null", null), ("true", bool true), ("false", bool false), ("NaN", float .nan),
    ("Infinity", float (.infinite false)), ("-Infinity", float (.infinite true))]

/-- The document whose name starts a text, and the rest. -/
def readName? (s : List Char) : Option (Json × List Char) :=
  names.findSome? fun (name, j) => (dropPrefix? name.toList s).map fun rest => (j, rest)

mutual

/-- The document at the start of a text, and the rest. -/
def readValue? : (fuel : Nat) → List Char → Option (Json × List Char)
  | 0, _ => none
  | fuel + 1, s =>
    match s with
    | '"' :: rest => (readString? (rest.length + 1) rest).map fun (cs, rest) =>
        (text (String.ofList cs), rest)
    | '{' :: rest =>
      match skipBlanks rest with
      | '}' :: rest => some (object [], rest)
      | rest => (readMembers? fuel [] rest).map fun (ms, rest) => (object ms, rest)
    | '[' :: rest =>
      match skipBlanks rest with
      | ']' :: rest => some (list [], rest)
      | rest => (readItems? fuel rest).map fun (js, rest) => (list js, rest)
    | _ =>
      match readName? s with
      | some found => some found
      | none =>
      match s with
      | '-' :: rest => readNumber? true rest
      | _ => readNumber? false s

/-- The items up to the closing bracket, and the rest. -/
def readItems? : (fuel : Nat) → List Char → Option (List Json × List Char)
  | 0, _ => none
  | fuel + 1, s => do
    let (j, rest) ← readValue? fuel s
    match skipBlanks rest with
    | ',' :: rest =>
      let (js, rest) ← readItems? fuel (skipBlanks rest)
      return (j :: js, rest)
    | ']' :: rest => return ([j], rest)
    | _ => none

/-- The members up to the closing brace put behind those already read, and the rest. -/
def readMembers? :
    (fuel : Nat) → List (String × Json) → List Char → Option (List (String × Json) × List Char)
  | 0, _, _ => none
  | fuel + 1, known, s =>
    match s with
    | '"' :: rest => do
      let (cs, rest) ← readString? (rest.length + 1) rest
      match skipBlanks rest with
      | ':' :: rest =>
        let (j, rest) ← readValue? fuel (skipBlanks rest)
        let known := (String.ofList cs, j) :: known
        match skipBlanks rest with
        | ',' :: rest => readMembers? fuel known (skipBlanks rest)
        | '}' :: rest => return (known, rest)
        | _ => none
      | _ => none
    | _ => none

end

mutual

/-- The document with the members of its objects, read last first, put in order. -/
def settle : Json → Json
  | list items => list (settleAll items)
  | object members => object (settleMembers members)
  | j => j

/-- The documents with the members of their objects put in order. -/
def settleAll : List Json → List Json
  | [] => []
  | j :: rest => settle j :: settleAll rest

/-- The members in the order of reading; of one name the last value stands at the first place. -/
def settleMembers : List (String × Json) → List (String × Json)
  | [] => []
  | (k, j) :: rest => putMember k (settle j) (settleMembers rest)

end

/-- The document that a whole text spells. -/
def read? (s : List Char) : Option Json :=
  match readValue? (2 * s.length + 2) (skipBlanks s) with
  | some (j, rest) => if (skipBlanks rest).isEmpty then some (settle j) else none
  | none => none

end OutlineSearch.Json
