import OutlineSearch.Value
import OutlineSearch.Number.Shortest
import OutlineSearch.Text.Quoted

/-!
# Values as text

A value has a plain text, in which a string stands for itself, and an exact text, in which it is
quoted. The items of a collection are always written exactly.
-/

namespace OutlineSearch.Value

open OutlineSearch.Text OutlineSearch.Number

/-- The exact text of a time zone. -/
def zoneText (offset : Int) : String :=
  if offset = 0 then "datetime.timezone.utc"
  else
    let days := offset / 86400000000
    let rest := offset % 86400000000
    let seconds := rest / 1000000
    let micros := rest % 1000000
    let parts := (if days = 0 then [] else [s!"days={days}"]) ++
      (if seconds = 0 then [] else [s!"seconds={seconds}"]) ++
      (if micros = 0 then [] else [s!"microseconds={micros}"])
    "datetime.timezone(datetime.timedelta(" ++ ", ".intercalate parts ++ "))"

/-- The exact text of a moment: seconds and microseconds are left out from the end while zero. -/
def momentText (m : Moment) : String :=
  let tail :=
    if m.time.micro ≠ 0 then s!", {m.time.second}, {m.time.micro}"
    else if m.time.second ≠ 0 then s!", {m.time.second}"
    else ""
  let zone := (m.offset.map fun o => s!", tzinfo={zoneText o}").getD ""
  s!"datetime.datetime({m.date.year}, {m.date.month}, {m.date.day}, {m.time.hour}, " ++
    s!"{m.time.minute}{tail}{zone})"

/-- A byte inside the quotes of a byte text. -/
def byteText (quote : Char) (b : UInt8) : List Char :=
  let c := Char.ofNat b.toNat
  if c == quote || c == '\\' then ['\\', c]
  else if c == '\n' then ['\\', 'n']
  else if c == '\r' then ['\\', 'r']
  else if c == '\t' then ['\\', 't']
  else if 32 ≤ b.toNat ∧ b.toNat < 127 then [c]
  else '\\' :: 'x' :: hex 2 b.toNat

/-- The exact text of bytes. -/
def bytesText (data : List UInt8) : String :=
  let q := quoteFor (data.map fun b => Char.ofNat b.toNat)
  String.ofList ('b' :: q :: (data.flatMap (byteText q) ++ [q]))

mutual

/-- The exact text of a value. -/
def exactText : Value → String
  | null => "None"
  | bool b => if b then "True" else "False"
  | int n => toString n
  | float x => writeFloat plainFormat x
  | text s => quoted s
  | list items => "[" ++ ", ".intercalate (exactTexts items) ++ "]"
  | tuple items =>
    let texts := exactTexts items
    "(" ++ ", ".intercalate texts ++ (if texts.length = 1 then ",)" else ")")
  | set items =>
    if items.isEmpty then "set()" else "\x7b" ++ ", ".intercalate (exactTexts items) ++ "\x7d"
  | map entries => "\x7b" ++ ", ".intercalate (entryTexts entries) ++ "\x7d"
  | date d => s!"datetime.date({d.year}, {d.month}, {d.day})"
  | moment m => momentText m
  | bytes data => bytesText data

/-- The exact texts of the items of a collection. -/
def exactTexts : List Value → List String
  | [] => []
  | v :: rest => exactText v :: exactTexts rest

/-- The exact texts of the entries of a map. -/
def entryTexts : List (Value × Value) → List String
  | [] => []
  | (k, v) :: rest => (exactText k ++ ": " ++ exactText v) :: entryTexts rest

end

/-- The plain text of a value. -/
def plainText : Value → String
  | text s => s
  | date d => d.iso
  | moment m => m.isoWith " "
  | v => v.exactText

/-- The text in which a property value is searched: the plain texts of the items of a collection
joined by commas, and nothing for null. -/
def searchText : Value → String
  | list items | tuple items | set items => ", ".intercalate (items.map plainText)
  | null => ""
  | v => v.plainText

end OutlineSearch.Value
