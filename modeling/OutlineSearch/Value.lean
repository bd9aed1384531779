import OutlineSearch.Calendar.Moment

/-!
# Property values

The values that pages and blocks carry as properties and that requests carry as arguments. A map
keeps the order in which its keys were first written. Equality is numeric across truth values,
integers and floating point numbers, and does not depend on the order of a map.
-/

namespace OutlineSearch

/-- A value of any kind. -/
inductive Value where
  | null
  | bool (b : Bool)
  | int (n : Int)
  | float (x : Binary64)
  | text (s : String)
  | list (items : List Value)
  | tuple (items : List Value)
  | set (items : List Value)
  | map (entries : List (Value × Value))
  | date (d : Date)
  | moment (m : Moment)
  | bytes (data : List UInt8)
deriving Inhabited, Repr

/-- A mapping from names to values in the order of writing. -/
abbrev Properties := List (String × Value)

namespace Value

/-- The number that a value is, when it is a truth value, an integer or a floating point number. -/
def number? : Value → Option (Int ⊕ Binary64)
  | bool b => some (.inl (if b then 1 else 0))
  | int n => some (.inl n)
  | float x => some (.inr x)
  | _ => none

/-- Exact equality of numbers. -/
def sameNumber : Int ⊕ Binary64 → Int ⊕ Binary64 → Bool
  | .inl a, .inl b => a == b
  | .inl a, .inr x => x.steps? == some (a * Binary64.stepsPerOne)
  | .inr x, .inl a => x.steps? == some (a * Binary64.stepsPerOne)
  | .inr x, .inr y => x.equals y

mutual

/-- Whether two values are equal. -/
def equals : Value → Value → Bool
  | null, null => true
  | text a, text b => a == b
  | list as, list bs => equalLists as bs
  | tuple as, tuple bs => equalLists as bs
  | set as, set bs => as.length == bs.length && allAmong as bs
  | map as, map bs => as.length == bs.length && allEntriesAmong as bs
  | date a, date b => a == b
  | moment a, moment b => a.same b
  | bytes a, bytes b => a == b
  | a, b =>
    match a.number?, b.number? with
    | some m, some n => sameNumber m n
    | _, _ => false

/-- Whether two lists are equal item by item. -/
def equalLists : List Value → List Value → Bool
  | [], [] => true
  | a :: as, b :: bs => equals a b && equalLists as bs
  | _, _ => false

/-- Whether each item of the first list is equal to one of the second. -/
def allAmong : List Value → List Value → Bool
  | [], _ => true
  | a :: as, bs => bs.any (fun b => equals a b) && allAmong as bs

/-- Whether each entry of the first map has an equal one in the second. -/
def allEntriesAmong : List (Value × Value) → List (Value × Value) → Bool
  | [], _ => true
  | (k, v) :: as, bs => bs.any (fun (l, w) => equals k l && equals v w) && allEntriesAmong as bs

end

instance : BEq Value := ⟨equals⟩

/-- Whether a value counts as present: not null, false, zero or empty. -/
def isTruthy : Value → Bool
  | null => false
  | bool b => b
  | int n => n != 0
  | float x => !x.isZero
  | text s => !s.isEmpty
  | list items | tuple items | set items => !items.isEmpty
  | map entries => !entries.isEmpty
  | date _ | moment _ => true
  | bytes data => !data.isEmpty

/-- Whether the value is null. -/
def isNull : Value → Bool
  | null => true
  | _ => false

/-- Whether the value is a string. -/
def isText : Value → Bool
  | text _ => true
  | _ => false

/-- The value under a key that is a string. -/
def lookup (key : String) (entries : List (Value × Value)) : Option Value :=
  (entries.find? fun (k, _) =>
    match k with
    | text s => s == key
    | _ => false).map (·.2)

/-- The value under a key that is a string, null when there is none. -/
def get (entries : List (Value × Value)) (key : String) : Value := (lookup key entries).getD null

/-- The entries with the value under a key replaced, or added behind the others. -/
def put (key value : Value) : List (Value × Value) → List (Value × Value)
  | [] => [(key, value)]
  | (k, v) :: rest => if equals k key then (k, value) :: rest else (k, v) :: put key value rest

/-- The entries without the one under a key. -/
def erase (key : Value) (entries : List (Value × Value)) : List (Value × Value) :=
  entries.filter fun (k, _) => !equals k key

/-- The entries with those of a key that is a string set to a value. -/
def putText (key : String) (value : Value) (entries : List (Value × Value)) :
    List (Value × Value) :=
  put (text key) value entries

/-- The map with the given named entries. -/
def ofProperties (p : Properties) : Value := map (p.map fun (k, v) => (text k, v))

end Value

namespace Properties

/-- The value under a name. -/
def get? (p : Properties) (key : String) : Option Value := (p.find? (·.1 == key)).map (·.2)

/-- The properties with the value under a name replaced, or added behind the others. -/
def put (key : String) (value : Value) : Properties → Properties
  | [] => [(key, value)]
  | (k, v) :: rest => if k == key then (k, value) :: rest else (k, v) :: put key value rest

/-- The properties with a value under a name that has none yet. -/
def putNew (p : Properties) (key : String) (value : Value) : Properties :=
  if (get? p key).isSome then p else p ++ [(key, value)]

end Properties

end OutlineSearch
