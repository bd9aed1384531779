import OutlineSearch.Yaml.Cursor

/-!
# The types of plain scalars

A plain scalar is null, a truth value, a number, a date or time, a merge mark or a value mark by its
spelling, and otherwise a string.
-/

namespace OutlineSearch.Yaml

/-- What a tag of the core schema names. -/
inductive Kind where
  | null
  | bool
  | int
  | float
  | timestamp
  | merge
  | value
  | string
  | binary
  | omap
  | pairs
  | set
  | sequence
  | mapping
  | unknown
deriving DecidableEq, Repr, Inhabited

/-- The text in front of the names of the core schema. -/
def corePrefix : List Char := "tag:yaml.org,2002:".toList

/-- The core schema's names. -/
def kindNames : List (String × Kind) :=
  [("null", .null), ("bool", .bool), ("int", .int), ("float", .float), ("timestamp", .timestamp),
    ("merge", .merge), ("value", .value), ("str", .string), ("binary", .binary), ("omap", .omap),
    ("pairs", .pairs), ("set", .set), ("seq", .sequence), ("map", .mapping)]

/-- What a whole tag names. -/
def Kind.ofTag (tag : List Char) : Kind :=
  ((kindNames.find? fun (n, _) => corePrefix ++ n.toList == tag).map (·.2)).getD .unknown

/-- The spellings of truth values. -/
def boolNames : List String :=
  ["yes", "Yes", "YES", "no", "No", "NO", "true", "True", "TRUE", "false", "False", "FALSE", "on",
    "On", "ON", "off", "Off", "OFF"]

/-- The spellings of null. -/
def nullNames : List String := ["", "~", "null", "Null", "NULL"]

/-- The text without a sign in front. -/
def unsigned (s : List Char) : List Char :=
  match s with
  | '-' :: rest => rest
  | '+' :: rest => rest
  | _ => s

private def digitOrUnderscore (c : Char) : Bool := c.isDigit || c == '_'

/-- Whether a text is a digit followed by digits and underscores. -/
def isDigits (s : List Char) : Bool :=
  match s with
  | c :: rest => c.isDigit && rest.all digitOrUnderscore
  | [] => false

/-- Whether a text consists of groups of a colon and a number below sixty, at least one of them. -/
def isSixties : List Char → Bool
  | ':' :: a :: ':' :: rest => a.isDigit && isSixties (':' :: rest)
  | ':' :: a :: b :: ':' :: rest => '0' ≤ a && a ≤ '5' && b.isDigit && isSixties (':' :: rest)
  | [':', a] => a.isDigit
  | [':', a, b] => '0' ≤ a && a ≤ '5' && b.isDigit
  | _ => false

/-- Whether a text is a number in base sixty: a number whose first digit is accepted by `first`,
and groups. -/
def isSexagesimal (first : Char → Bool) (s : List Char) : Bool :=
  let head := s.takeWhile digitOrUnderscore
  (head.head?.map first).getD false && isSixties (s.dropWhile digitOrUnderscore)

/-- Whether a text spells an integer. -/
def isInt (s : List Char) : Bool :=
  let u := unsigned s
  let nonzero (c : Char) : Bool := c.isDigit && c != '0'
  match u with
  | [] => false
  | ['0'] => true
  | '0' :: 'b' :: rest => !rest.isEmpty && rest.all fun c => c == '0' || c == '1' || c == '_'
  | '0' :: 'x' :: rest =>
    !rest.isEmpty &&
      rest.all fun c => digitOrUnderscore c || ('a' ≤ c && c ≤ 'f') || ('A' ≤ c && c ≤ 'F')
  | '0' :: rest => rest.all fun c => ('0' ≤ c && c ≤ '7') || c == '_'
  | c :: rest => nonzero c && (rest.all digitOrUnderscore || isSexagesimal nonzero u)

/-- Whether a text is an exponent with its sign, or nothing. -/
def isExponent : List Char → Bool
  | [] => true
  | e :: sign :: d :: rest =>
    (e == 'e' || e == 'E') && (sign == '-' || sign == '+') && d.isDigit && rest.all Char.isDigit
  | _ => false

/-- Whether a text is digits, a point and more digits, and perhaps an exponent. -/
def isPointed (s : List Char) : Bool :=
  let head := s.takeWhile (· != '.')
  match s.dropWhile (· != '.') with
  | '.' :: rest => isDigits head && isExponent (rest.dropWhile digitOrUnderscore)
  | _ => false

/-- Whether a text is a point and digits, and perhaps an exponent. -/
def isFraction : List Char → Bool
  | '.' :: c :: rest => c.isDigit && isExponent (rest.dropWhile digitOrUnderscore)
  | _ => false

/-- Whether a text is a number in base sixty with a point behind it. -/
def isSexagesimalFloat (s : List Char) : Bool :=
  match s.dropWhile (· != '.') with
  | '.' :: rest =>
    isSexagesimal Char.isDigit (s.takeWhile (· != '.')) && rest.all digitOrUnderscore
  | _ => false

/-- Whether a text spells a floating point number. -/
def isFloat (s : List Char) : Bool :=
  let u := unsigned s
  isPointed u || isFraction s || isSexagesimalFloat u ||
    [".inf", ".Inf", ".INF"].any (fun n => n.toList == u) ||
    [".nan", ".NaN", ".NAN"].any (fun n => n.toList == s)

/-- The parts of a date or time, digits as they are written. -/
structure TimestampParts where
  year : List Char
  month : List Char
  day : List Char
  clock : Option (List Char × List Char × List Char × List Char)
  zulu : Bool
  zone : Option (Bool × List Char × List Char)

private def oneOrTwo (s : List Char) : Option (List Char × List Char) :=
  let ds := (s.take 2).takeWhile Char.isDigit
  if ds.isEmpty then none else some (ds, s.drop ds.length)

private def two (s : List Char) : Option (List Char × List Char) :=
  let ds := s.take 2
  if ds.length = 2 ∧ ds.all Char.isDigit then some (ds, s.drop 2) else none

private def mark (c : Char) (s : List Char) : Option (List Char) :=
  match s with
  | a :: rest => if a == c then some rest else none
  | [] => none

private def spaceOrTab (c : Char) : Bool := c == ' ' || c == '\t'

/-- The zone at the end of a time: whether it is universal time, and the signed hours and minutes
of an offset. -/
def zoneParts? (s : List Char) : Option (Bool × Option (Bool × List Char × List Char)) :=
  match s.dropWhile spaceOrTab with
  | [] => if s.isEmpty then some (false, none) else none
  | ['Z'] => some (true, none)
  | sign :: rest =>
    if sign == '-' || sign == '+' then do
      let (hours, rest) ← oneOrTwo rest
      match rest with
      | [] => return (false, some (sign == '-', hours, []))
      | _ =>
        let rest ← mark ':' rest
        let (minutes, rest) ← two rest
        if rest.isEmpty then return (false, some (sign == '-', hours, minutes)) else none
    else none

/-- The parts of a text that spells a date or a time. -/
def timestampParts? (s : List Char) : Option TimestampParts := do
  let year := s.take 4
  if year.length ≠ 4 ∨ ¬year.all Char.isDigit then none
  else
    let rest ← mark '-' (s.drop 4)
    let (month, rest) ← oneOrTwo rest
    let rest ← mark '-' rest
    let (day, rest) ← oneOrTwo rest
    match rest with
    | [] => return ⟨year, month, day, none, false, none⟩
    | c :: more =>
      let rest ←
        if c == 'T' || c == 't' then some more
        else if spaceOrTab c then some (rest.dropWhile spaceOrTab)
        else none
      let (hour, rest) ← oneOrTwo rest
      let rest ← mark ':' rest
      let (minute, rest) ← two rest
      let rest ← mark ':' rest
      let (second, rest) ← two rest
      let (fraction, rest) := match rest with
        | '.' :: more => (more.takeWhile Char.isDigit, more.dropWhile Char.isDigit)
        | _ => ([], rest)
      let (zulu, zone) ← zoneParts? rest
      return ⟨year, month, day, some (hour, minute, second, fraction), zulu, zone⟩

/-- Whether a plain scalar spells a date or a time; a date alone has months and days of two
digits. -/
def isTimestamp (s : List Char) : Bool :=
  match timestampParts? s with
  | some p => p.clock.isSome || (p.month.length == 2 && p.day.length == 2)
  | none => false

/-- The type of a plain scalar by its spelling. -/
def Kind.ofPlain (s : List Char) : Kind :=
  let text := String.ofList s
  if boolNames.contains text then .bool
  else if isFloat s then .float
  else if isInt s then .int
  else if text == "<<" then .merge
  else if nullNames.contains text then .null
  else if isTimestamp s then .timestamp
  else if text == "=" then .value
  else .string

end OutlineSearch.Yaml
