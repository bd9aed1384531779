import OutlineSearch.Schema.Checked
import OutlineSearch.Number.Numeral
import OutlineSearch.Text.Split
import OutlineSearch.Text.Utf8
import OutlineSearch.Value.Display

/-!
# Lenient reading of values

A schema field takes its own type and whatever spells it without doubt: a numeral for a number, a
whole floating point number for an integer, a word for a truth value. Every refusal has one
message.
-/

namespace OutlineSearch.Schema

open OutlineSearch.Text OutlineSearch.Number

/-- Reads a string. -/
def string : Value → Checked String
  | .text s => .valid s
  | .bytes data =>
    match decode (data.map (·.toNat)) with
    | .ok s => .valid (String.ofList s)
    | .error _ =>
      .refuse "Input should be a valid string, unable to parse raw data as a unicode string"
  | _ => .refuse "Input should be a valid string"

/-- Whether a character may stand around a numeral in a schema. -/
def isPadding (c : Char) : Bool := isBlank c && !(0x1C ≤ c.toNat && c.toNat ≤ 0x1F)

/-- The text without leading zeros, one being kept in front of a point or at the end. The first
character must be a digit or a minus sign. -/
def dropLeadingZeros? (s : List Char) : Option (List Char) :=
  match s with
  | '0' :: rest =>
    let zeros := rest.takeWhile fun c => c == '0' || c == '_'
    match rest.dropWhile fun c => c == '0' || c == '_' with
    | [] => some [(('0' :: zeros).getLast?).getD '0']
    | c :: more =>
      if c.isDigit then some (c :: more)
      else if c == '.' then some ((('0' :: zeros).getLast?).getD '0' :: c :: more)
      else none
  | c :: _ => if c.isDigit || c == '-' then some s else none
  | [] => none

/-- The text without a point that only zeros follow. -/
def dropZeroFraction (s : List Char) : List Char :=
  match s.dropWhile (· != '.') with
  | '.' :: zeros => if zeros.all (· == '0') then s.takeWhile (· != '.') else s
  | _ => s

/-- The text without underscores, if it has any and they all stand alone inside it. -/
def dropSingleUnderscores (s : List Char) : List Char :=
  if s.head? == some '_' || s.getLast? == some '_' || occursIn "__".toList s then s
  else s.filter (· != '_')

/-- The integer that a text of ASCII digits without leading zeros spells; a text of too many digits
is told apart. -/
def plainInteger (s : List Char) : Except IntegerError Int :=
  let (negative, digits) := match s with
    | '-' :: rest => (true, rest)
    | _ => (false, s)
  if digits.isEmpty || !digits.all Char.isDigit || (digits.head? == some '0' && digits.length ≠ 1)
  then .error .malformed
  else if digitLimit < digits.length then .error (.tooLong digits.length)
  else
    let n : Int := ofDigits (digits.map fun d => d.toNat - 48)
    .ok (if negative then -n else n)

/-- The integer that a numeral of a schema spells: blanks around it, a plus sign, leading zeros, a
fraction of zeros and single underscores are allowed. -/
def schemaInteger (s : List Char) : Except IntegerError Int :=
  match plainInteger s with
  | .ok n => .ok n
  | .error (.tooLong n) => .error (.tooLong n)
  | .error .malformed =>
    let s := trimOf isPadding s
    let unsigned : Option (List Char) := match s with
      | '+' :: '-' :: _ => none
      | '+' :: rest => some rest
      | _ => some s
    match unsigned.bind dropLeadingZeros? with
    | none => .error .malformed
    | some s => plainInteger (dropSingleUnderscores (dropZeroFraction s))

private def sizeMessage : String :=
  "Unable to parse input string as an integer, exceeded maximum size"

/-- Reads an integer from a floating point number. -/
def wholeFloat (x : Binary64) : Checked Int :=
  if !x.isFinite then .refuse "Input should be a finite number"
  else
    match x.toInt? with
    | none => .refuse "Input should be a valid integer, got a number with a fractional part"
    | some n => if n.natAbs < Nat.pow 2 63 then .valid n else .refuse sizeMessage

/-- Reads an integer. -/
def integer : Value → Checked Int
  | .int n => .valid n
  | .bool b => .valid (if b then 1 else 0)
  | .float x => wholeFloat x
  | .text s =>
    match schemaInteger s.toList with
    | .ok n => .valid n
    | .error .malformed =>
      .refuse "Input should be a valid integer, unable to parse string as an integer"
    | .error (.tooLong _) => .refuse sizeMessage
  | _ => .refuse "Input should be a valid integer"

/-- The floating point number that a numeral of a schema spells. -/
def schemaFloat? (s : List Char) : Option Binary64 :=
  let s := trimOf isPadding s
  if s.all fun c => c.toNat < 128 then
    let s := if s.contains '_' then dropSingleUnderscores s else s
    let (negative, rest) := readSign s
    if rest.contains '_' then none else readUnsigned? negative rest
  else none

/-- Reads a floating point number. -/
def real : Value → Checked Binary64
  | .float x => .valid x
  | .int n =>
    match Binary64.ofInt? n with
    | some x => .valid x
    | none => .refuse "Input should be a valid number"
  | .bool b => .valid (Binary64.ofInt (if b then 1 else 0))
  | .text s =>
    match schemaFloat? s.toList with
    | some x => .valid x
    | none => .refuse "Input should be a valid number, unable to parse string as a number"
  | _ => .refuse "Input should be a valid number"

/-- The words for true. -/
def yesWords : List String := ["1", "on", "t", "true", "y", "yes"]

/-- The words for false. -/
def noWords : List String := ["0", "off", "f", "false", "n", "no"]

private def doubtful : Checked Bool :=
  .refuse "Input should be a valid boolean, unable to interpret input"

private def truthOfInteger (n : Int) : Checked Bool :=
  if n = 0 then .valid false else if n = 1 then .valid true else doubtful

/-- Reads a truth value. -/
def truth : Value → Checked Bool
  | .bool b => .valid b
  | .int n =>
    if n.natAbs < Nat.pow 2 63 then truthOfInteger n else .refuse "Input should be a valid boolean"
  | .float x =>
    match wholeFloat x with
    | .valid n => truthOfInteger n
    | _ => .refuse "Input should be a valid boolean"
  | .text s =>
    let word := String.ofList (s.toList.map Char.toLower)
    if yesWords.contains word then .valid true
    else if noWords.contains word then .valid false
    else doubtful
  | _ => .refuse "Input should be a valid boolean"

/-- Reads null as nothing and any other value as given. -/
def optional {α : Type} (read : Value → Checked α) : Value → Checked (Option α)
  | .null => .valid none
  | v => (read v).map some

/-- Reads a list. -/
def list {α : Type} (read : Value → Checked α) : Value → Checked (List α)
  | .list items | .tuple items | .set items => Checked.items read 0 items
  | _ => .refuse "Input should be a valid list"

/-- The name of a key in the path of an issue. -/
def keyName : Value → String
  | .text s => s
  | .bool b => if b then "1" else "0"
  | v => v.exactText

/-- Reads the entries of a map whose keys are strings. -/
def entries : List (Value × Value) → Checked Properties
  | [] => .valid []
  | (k, v) :: rest =>
    Checked.apply
      (((string k).map fun k => List.cons (k, v)).under "[key]" |>.under (keyName k))
      (entries rest)

/-- Reads a map with string keys. -/
def namedValues : Value → Checked Properties
  | .map es => entries es
  | _ => .refuse "Input should be a valid dictionary"

/-- The names of a choice in words. -/
def choiceText (names : List String) : String :=
  let quoted := names.map fun n => s!"'{n}'"
  match quoted.reverse with
  | last :: first :: others =>
    ", ".intercalate (first :: others).reverse ++ " or " ++ last
  | _ => ", ".intercalate quoted

/-- Reads one of some names. -/
def choice {α : Type} (named : List (String × α)) (v : Value) : Checked α :=
  let found : Option (String × α) := match v with
    | .text s => named.find? fun entry => entry.1 == s
    | _ => none
  match found with
  | some (_, a) => .valid a
  | none => .refuse s!"Input should be {choiceText (named.map Prod.fst)}"

/-- Reads an integer that is not below a bound. -/
def atLeast (bound : Int) (v : Value) : Checked Int :=
  (integer v).bind fun n =>
    if bound ≤ n then .valid n
    else .refuse s!"Input should be greater than or equal to {bound}"

/-- The first of some names that is a key of the map, with its value. -/
def present? (es : List (Value × Value)) (names : List String) : Option (String × Value) :=
  names.findSome? fun n => (Value.lookup n es).map fun v => (n, v)

/-- Reads a field that has to be there. -/
def required {α : Type} (es : List (Value × Value)) (names : List String)
    (read : Value → Checked α) : Checked α :=
  match present? es names with
  | some (name, v) => (read v).under name
  | none => (Checked.refuse "Field required").under (names.headD "")

/-- Reads a field that has a default. -/
def field {α : Type} (es : List (Value × Value)) (names : List String) (default : α)
    (read : Value → Checked α) : Checked α :=
  match present? es names with
  | some (name, v) => (read v).under name
  | none => .valid default

/-- Reads the entries of a record of the given name. -/
def record {α : Type} (name : String) (read : List (Value × Value) → Checked α) :
    Value → Checked α
  | .map es => read es
  | _ => .refuse s!"Input should be a valid dictionary or instance of {name}"

end OutlineSearch.Schema
