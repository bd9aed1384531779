/-!
# Binary floating point numbers of 64 bits

A finite number is kept as a whole number of *steps*, one step being the smallest positive number
`2 ^ -1074`. Order and equality of finite numbers are then order and equality of integers, and the
one source of inexactness is `Binary64.ofRatio`, which rounds a ratio to the nearest number of at
most 53 significant bits, a tie going to the even neighbour.
-/

namespace OutlineSearch

/-- A floating point number; `finite 0` is the positive zero. -/
inductive Binary64 where
  | nan
  | infinite (negative : Bool)
  | negativeZero
  | finite (steps : Int)
deriving DecidableEq, Inhabited, Repr

namespace Binary64

/-- How many steps make one: `2 ^ 1074`. -/
def stepsPerOne : Nat := Nat.pow 2 1074

/-- The number of steps from which a number is infinite: `2 ^ 1024`, counted in steps. -/
def stepLimit : Nat := Nat.pow 2 2098

/-- The integer nearest to `n / d`, a tie going to the even one. -/
def nearestEven (n d : Nat) : Nat :=
  let q := n / d
  let twice := 2 * (n % d)
  if twice < d then q
  else if d < twice then q + 1
  else if q % 2 = 0 then q else q + 1

/-- The nearest multiple of a power of two to `n / d` that has at most 53 significant bits. -/
def roundSteps (n d : Nat) : Nat :=
  let excess := Nat.log2 (n / d) - 52
  nearestEven n (d * Nat.pow 2 excess) * Nat.pow 2 excess

/-- The number of the given sign and of `steps` steps, infinite from the limit on. -/
def ofSteps (negative : Bool) (steps : Nat) : Binary64 :=
  if stepLimit ≤ steps then infinite negative
  else if negative then (if steps = 0 then negativeZero else finite (-(steps : Int)))
  else finite steps

/-- The number nearest to `± n / d`. -/
def ofMagnitude (negative : Bool) (n d : Nat) : Binary64 :=
  ofSteps negative (roundSteps (n * stepsPerOne) d)

/-- The number nearest to `n / d`; the ratio zero gives the positive zero. -/
def ofRatio (n : Int) (d : Nat) : Binary64 := ofMagnitude (decide (n < 0)) n.natAbs d

/-- The number nearest to an integer, infinite when the integer is out of range. -/
def ofInt (n : Int) : Binary64 := ofRatio n 1

/-- The number nearest to an integer, or nothing when the integer is out of range. -/
def ofInt? (n : Int) : Option Binary64 :=
  match ofInt n with
  | .infinite _ => none
  | x => some x

/-- The steps of a finite number of either zero sign. -/
def steps? : Binary64 → Option Int
  | finite s => some s
  | negativeZero => some 0
  | _ => none

/-- Whether the number is finite. -/
def isFinite (x : Binary64) : Bool := x.steps?.isSome

/-- Numeric equality: the zeros are equal and no `nan` equals anything. -/
def equals : Binary64 → Binary64 → Bool
  | infinite a, infinite b => a == b
  | x, y =>
    match x.steps?, y.steps? with
    | some a, some b => a == b
    | _, _ => false

/-- Numeric order; false when either side is `nan`. -/
def less : Binary64 → Binary64 → Bool
  | nan, _ => false
  | _, nan => false
  | infinite a, infinite b => a && !b
  | infinite a, _ => a
  | _, infinite b => !b
  | x, y => decide (x.steps?.getD 0 < y.steps?.getD 0)

/-- Numeric order or equality. -/
def atMost (x y : Binary64) : Bool := less x y || equals x y

/-- Whether the sign bit is set; `nan` counts as unsigned. -/
def isNegative : Binary64 → Bool
  | nan => false
  | infinite negative => negative
  | negativeZero => true
  | finite s => decide (s < 0)

/-- The number with the opposite sign. -/
def neg : Binary64 → Binary64
  | nan => nan
  | infinite negative => infinite (!negative)
  | negativeZero => finite 0
  | finite s => if s = 0 then negativeZero else finite (-s)

/-- The rounded sum. -/
def add : Binary64 → Binary64 → Binary64
  | nan, _ => nan
  | _, nan => nan
  | infinite a, infinite b => if a == b then infinite a else nan
  | infinite a, _ => infinite a
  | _, infinite b => infinite b
  | negativeZero, negativeZero => negativeZero
  | x, y => ofRatio (x.steps?.getD 0 + y.steps?.getD 0) stepsPerOne

/-- The rounded product. -/
def mul (x y : Binary64) : Binary64 :=
  let negative := x.isNegative != y.isNegative
  match x, y with
  | nan, _ => nan
  | _, nan => nan
  | infinite _, y => if y.steps? = some 0 then nan else infinite negative
  | x, infinite _ => if x.steps? = some 0 then nan else infinite negative
  | x, y =>
    ofMagnitude negative ((x.steps?.getD 0).natAbs * (y.steps?.getD 0).natAbs)
      (stepsPerOne * stepsPerOne)

/-- The integer part toward zero of a finite number. -/
def truncate? (x : Binary64) : Option Int := x.steps?.map fun s => s.tdiv stepsPerOne

/-- The integer that a finite number without fractional part is. -/
def toInt? (x : Binary64) : Option Int :=
  match x.steps? with
  | some s => if s % (stepsPerOne : Int) = 0 then some (s / stepsPerOne) else none
  | none => none

/-- Whether the number is zero, of either sign. -/
def isZero (x : Binary64) : Bool := x.steps? == some 0

instance : BEq Binary64 := ⟨equals⟩

@[simp] theorem steps?_finite (s : Int) : (finite s).steps? = some s := rfl

@[simp] theorem steps?_negativeZero : negativeZero.steps? = some 0 := rfl

@[simp] theorem equals_finite (a b : Int) : equals (finite a) (finite b) = (a == b) := rfl

@[simp] theorem less_finite (a b : Int) : less (finite a) (finite b) = decide (a < b) := rfl

end Binary64

end OutlineSearch
