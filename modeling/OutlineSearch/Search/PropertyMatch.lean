import OutlineSearch.Value.Display
import OutlineSearch.Number.Numeral
import OutlineSearch.Text.Case
import OutlineSearch.Fault

/-!
# Matching property values

A wanted value of true asks only whether there is a value. Otherwise texts are compared without
regard to case, numbers as floating point numbers, and lists match when one of their members does.
-/

namespace OutlineSearch

open OutlineSearch.Text OutlineSearch.Number

namespace Value

/-- The members of a collection. -/
def members? : Value → Option (List Value)
  | list items | tuple items | set items => some items
  | _ => none

/-- The value as a floating point number, if it is or spells a number. -/
def toFloat? : Value → Outcome (Option Binary64)
  | int n =>
    match Binary64.ofInt? n with
    | some x => .ok (some x)
    | none => .error (.overflow "int too large to convert to float")
  | float x => .ok (some x)
  | bool b => .ok (some (Binary64.ofInt (if b then 1 else 0)))
  | text s => .ok (readFloat? s.toList)
  | bytes data =>
    .ok (if data.all (· < 128) then readFloat? (data.map fun b => Char.ofNat b.toNat) else none)
  | _ => .ok none

/-- The text without blanks around it and without case. -/
def plainWord (s : String) : List Char := lower (trim s.toList)

/-- The words that stand for true. -/
def affirmations : List (List Char) := ["true".toList, "yes".toList, "1".toList]

/-- Whether two values are the same number. -/
def sameAsNumber (item wanted : Value) : Outcome Bool := do
  match ← item.toFloat? with
  | none => return false
  | some x =>
    match ← wanted.toFloat? with
    | none => return false
    | some y => return x.equals y

/-- Whether a value that is no collection and not null is the wanted one, which is no collection
either and not true. -/
def matchesScalar (item wanted : Value) : Outcome Bool :=
  match item, wanted with
  | text s, text t => .ok (plainWord s == plainWord t)
  | item, int n => sameAsNumber item (int n)
  | item, float x => sameAsNumber item (float x)
  | text s, bool b => .ok (affirmations.contains (plainWord s) == b)
  | item, bool b => .ok (item.isTruthy == b)
  | item, wanted => .ok (item.equals wanted)

/-- Whether a value is true itself. -/
def isTrue : Value → Bool
  | bool b => b
  | _ => false

theorem sizeOf_members {v : Value} {items : List Value} (h : v.members? = some items) :
    sizeOf items < sizeOf v := by
  cases v <;> simp_all [members?]

/-- Whether a property value is the wanted one. -/
def matchesWanted (item wanted : Value) : Outcome Bool :=
  if wanted.isTrue then .ok (!item.isNull)
  else if item.isNull then .ok wanted.isNull
  else
    match _hi : item.members?, _hw : wanted.members? with
    | some items, some wishes =>
      .any (items.attach.flatMap fun ⟨i, _⟩ => wishes.attach.map fun ⟨w, _⟩ => matchesWanted i w)
    | some items, none => .any (items.attach.map fun ⟨i, _⟩ => matchesWanted i wanted)
    | none, some wishes => .any (wishes.attach.map fun ⟨w, _⟩ => matchesWanted item w)
    | none, none => matchesScalar item wanted
termination_by sizeOf item + sizeOf wanted
decreasing_by
  · have a := List.sizeOf_lt_of_mem ‹i ∈ items›
    have b := List.sizeOf_lt_of_mem ‹w ∈ wishes›
    have := sizeOf_members _hi
    have := sizeOf_members _hw
    omega
  · have a := List.sizeOf_lt_of_mem ‹i ∈ items›
    have := sizeOf_members _hi
    omega
  · have b := List.sizeOf_lt_of_mem ‹w ∈ wishes›
    have := sizeOf_members _hw
    omega

end Value

end OutlineSearch
