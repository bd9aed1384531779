import OutlineSearch.Yaml.Node
import OutlineSearch.Value
import OutlineSearch.Number.Refusal
import OutlineSearch.Text.Base64
import OutlineSearch.Text.Case
import OutlineSearch.Text.Quoted
import OutlineSearch.Text.Split

/-!
# The value of a YAML text

Every node is given the value of its type. A mapping takes the entries of the mappings merged into
it, its own counting more. A text can be at fault in several places; the outermost counts, and of
those at one depth the first.
-/

namespace OutlineSearch.Yaml

open OutlineSearch.Text OutlineSearch.Number

/-- A value or what is wrong at a depth. -/
abbrev Built (α : Type) := Except (Nat × Trouble) α

namespace Built

variable {α β γ : Type}

/-- Two values, or the trouble at the smaller depth, the first one counting more. -/
def both (f : α → β → γ) : Built α → Built β → Built γ
  | .ok a, .ok b => .ok (f a b)
  | .ok _, .error e => .error e
  | .error e, .ok _ => .error e
  | .error e, .error g => .error (if g.1 < e.1 then g else e)

/-- The values of a list, or the trouble that counts most. -/
def all (items : List (Built α)) : Built (List α) :=
  items.foldr (both List.cons) (.ok [])

/-- Trouble at a depth. -/
def malformed (depth : Nat) : Built α := .error (depth, .malformed)

/-- A fault at a depth. -/
def fault (depth : Nat) (f : Fault) : Built α := .error (depth, .failed f)

end Built

/-- The value of decimal digits. -/
def digitsValue (s : List Char) : Nat := ofDigits (s.map fun c => c.toNat - 48)

/-- The integer that a numeral in base ten spells, or the fault. -/
def integerOrFault (s : List Char) : Outcome Int :=
  (readInteger s).mapError fun e => .badValue (e.words s)

private def inBase (base : Nat) (s : List Char) : Outcome Int :=
  match readInBase? base s with
  | some n => .ok n
  | none => .error (.badValue (notAnInteger base s))

/-- The integers of the parts of a number in base sixty. -/
def sixties : List (List Char) → Outcome (List Int)
  | [] => .ok []
  | s :: rest => do
    let n ← integerOrFault s
    let ns ← sixties rest
    return n :: ns

/-- The integer that a scalar spells. -/
def intValue (s : List Char) : Outcome Int := do
  let s := s.filter (· != '_')
  let negative := s.head? == some '-'
  let digits := unsigned s
  let n ←
    match digits with
    | [] => .error (.tooShort "string index out of range")
    | ['0'] => pure 0
    | '0' :: 'b' :: rest => inBase 2 rest
    | '0' :: 'x' :: rest => inBase 16 rest
    | '0' :: _ => inBase 8 digits
    | _ =>
      if digits.contains ':' then do
        let ns ← sixties (split [':'] digits)
        pure (ns.foldl (fun n d => n * 60 + d) 0)
      else integerOrFault digits
  return (if negative then -n else n)

private def floatOrFault (s : List Char) : Outcome Binary64 :=
  match readFloat? s with
  | some x => .ok x
  | none => .error (.badValue s!"could not convert string to float: {String.ofList (quote s)}")

/-- The sum of the parts of a number in base sixty, the last one being the ones. -/
def sixtyFloats (base : Int) (sum : Binary64) : List (List Char) → Outcome Binary64
  | [] => .ok sum
  | s :: rest => do
    let x ← floatOrFault s
    sixtyFloats (base * 60) (sum.add (x.mul (Binary64.ofInt base))) rest

/-- The floating point number that a scalar spells. -/
def floatValue (s : List Char) : Outcome Binary64 := do
  let s := lower (s.filter (· != '_'))
  if s.isEmpty then throw (.tooShort "string index out of range")
  let negative := s.head? == some '-'
  let digits := unsigned s
  if digits == ".inf".toList then return .infinite negative
  else if digits == ".nan".toList then return .nan
  else
    let x ←
      if digits.contains ':' then sixtyFloats 1 (.finite 0) (split [':'] digits).reverse
      else floatOrFault digits
    return (if negative then x.neg else x)

/-- The date of three numbers. -/
def dateValue (p : TimestampParts) : Outcome Date :=
  match Date.of? (digitsValue p.year) (digitsValue p.month) (digitsValue p.day) with
  | .ok d => .ok d
  | .error e => .error (.badValue e.message)

/-- The time of day of the numbers of a time. -/
def clockValue (hour minute second fraction : List Char) : Outcome ClockTime :=
  let places := fraction.take 6
  let micro := digitsValue places * Nat.pow 10 (6 - places.length)
  let t : ClockTime := ⟨digitsValue hour, digitsValue minute, digitsValue second, micro⟩
  if 24 ≤ t.hour then .error (.badValue "hour must be in 0..23")
  else if 60 ≤ t.minute then .error (.badValue "minute must be in 0..59")
  else if 60 ≤ t.second then .error (.badValue "second must be in 0..59")
  else .ok t

/-- The offset of a zone, which must be shorter than a day. -/
def zoneValue (negative : Bool) (hours minutes : List Char) : Outcome Int :=
  let micros : Int := ((digitsValue hours * 60 + digitsValue minutes : Nat) : Int) * 60000000
  let offset := if negative then -micros else micros
  if micros < 86400000000 then .ok offset
  else
    let days := offset / 86400000000
    let seconds := offset % 86400000000 / 1000000
    let rest := if seconds = 0 then "" else s!", seconds={seconds}"
    .error (.badValue ("offset must be a timedelta strictly between -timedelta(hours=24) and " ++
      s!"timedelta(hours=24), not datetime.timedelta(days={days}{rest})."))

/-- The date or the moment that a scalar spells. -/
def timestampValue (s : List Char) : Outcome Value := do
  match timestampParts? s with
  | none => .error (.noParts "'NoneType' object has no attribute 'groupdict'")
  | some p =>
    match p.clock with
    | none => return .date (← dateValue p)
    | some (hour, minute, second, fraction) =>
      let offset ←
        match p.zone with
        | some (negative, hours, minutes) => (zoneValue negative hours minutes).map some
        | none => pure (if p.zulu then some 0 else none)
      let d ← dateValue p
      let t ← clockValue hour minute second fraction
      return .moment ⟨d, t, offset⟩

/-- The truth value that a scalar spells. -/
def boolValue (s : List Char) : Outcome Bool :=
  let word := String.ofList (lower s)
  if ["yes", "true", "on"].contains word then .ok true
  else if ["no", "false", "off"].contains word then .ok false
  else .error (.unknownName (String.ofList (quote (lower s))))

/-- The value of a scalar of a type. A scalar whose type is one of collections is at fault only
inside the collection. -/
def scalarValue (depth : Nat) (kind : Kind) (s : List Char) : Built Value :=
  let lift (o : Outcome Value) : Built Value := o.mapError fun f => (depth, .failed f)
  match kind with
  | .null => .ok .null
  | .bool => lift ((boolValue s).map .bool)
  | .int => lift ((intValue s).map .int)
  | .float => lift ((floatValue s).map .float)
  | .timestamp => lift (timestampValue s)
  | .string => .ok (.text (String.ofList s))
  | .binary =>
    if s.all fun c => c.toNat < 128 then
      match decodeBase64? s with
      | some data => .ok (.bytes data)
      | none => .malformed depth
    else .malformed depth
  | .sequence | .mapping | .set | .omap | .pairs => .malformed (depth + 1)
  | _ => .malformed depth

/-- The entries of a mapping whose merge marks are resolved: those merged in come first, the
mappings of a merged sequence in reverse order. -/
def flatten : (height : Nat) → List (Node × Node) → Reading (List (Node × Node))
  | 0, _ => .error .malformed
  | height + 1, entries => do
    let merged ← (entries.filter fun (k, _) => k.kind == .merge).mapM fun (_, v) =>
      match v with
      | .mapping _ inner => flatten height inner
      | .sequence _ items => do
        let parts ← items.mapM fun n =>
          match n with
          | .mapping _ inner => flatten height inner
          | _ => .error .malformed
        return parts.reverse.flatten
      | _ => .error .malformed
    let own := (entries.filter fun (k, _) => k.kind != .merge).map fun (k, v) =>
      (if k.kind = .value then k.withKind .string else k, v)
    return merged.flatten ++ own

/-- A collection is no key: only a scalar is. -/
def keyValue (depth : Nat) (k : Node) : Built Value :=
  match k.scalarText? with
  | some s => (scalarValue depth k.kind s).mapError fun e => (depth, e.2)
  | none => .malformed depth

/-- The value of a node at a depth, `height` being more than that of the node. -/
def build : (height : Nat) → (depth : Nat) → Node → Built Value
  | 0, depth, _ => .malformed depth
  | _ + 1, depth, .scalar kind s => scalarValue depth kind s
  | height + 1, depth, .sequence kind items =>
    match kind with
    | .sequence => (Built.all (items.map (build height (depth + 1)))).map .list
    | .omap | .pairs =>
      let pairOf (n : Node) : Built Value :=
        match n with
        | .mapping _ [(k, v)] =>
          Built.both (fun a b => Value.tuple [a, b]) (build height (depth + 1) k)
            (build height (depth + 1) v)
        | _ => .malformed (depth + 1)
      (Built.all (items.map pairOf)).map .list
    | .mapping | .set => .malformed (depth + 1)
    | _ => .malformed depth
  | height + 1, depth, .mapping kind entries =>
    let built : Built (List (Value × Value)) :=
      match flatten height entries with
      | .error t => .error (depth + 1, t)
      | .ok entries =>
        Built.all (entries.map fun (k, v) =>
          Built.both Prod.mk (keyValue (depth + 1) k) (build height (depth + 1) v))
    let settled := built.map fun es => es.foldl (fun known (k, v) => Value.put k v known) []
    match kind with
    | .mapping => settled.map .map
    | .set => settled.map fun es => .set (es.map (·.1))
    | .sequence | .omap | .pairs => .malformed (depth + 1)
    | kind =>
      match (Node.mapping kind entries).scalarText? with
      | some s => scalarValue depth kind s
      | none => .malformed depth

/-- The value of a text of one document, null when there is none. -/
def load (s : List Char) : Reading Value := do
  match ← Composer.document (← tokens s) with
  | none => return .null
  | some n => (build (n.height + 1) 0 n).mapError (·.2)

end OutlineSearch.Yaml
