import OutlineSearch.Number.Binary64

/-!
# Shortest decimal digits of a floating point number

The digits chosen for a positive finite number are the fewest that read back as that number, and
of those the nearest to it. For each digit count the two points of the decimal grid around the
number are tested against the interval of reals that round to it.
-/

namespace OutlineSearch.Number

/-- The reals that round to a positive number, counted in quarter steps; both ends belong to it
exactly when `closed`. -/
structure RoundingInterval where
  low : Nat
  value : Nat
  high : Nat
  closed : Bool

/-- The interval of a positive number of `steps` steps. -/
def RoundingInterval.ofSteps (steps : Nat) : RoundingInterval :=
  let excess := Nat.log2 steps - 52
  let gap := Nat.pow 2 excess
  let below := if steps = Nat.pow 2 (52 + excess) ∧ excess ≠ 0 then gap else 2 * gap
  { low := 4 * steps - below
    value := 4 * steps
    high := 4 * steps + 2 * gap
    closed := (steps / gap) % 2 == 0 }

/-- Whether the ratio `n / d` of quarter steps lies in the interval. -/
def RoundingInterval.contains (r : RoundingInterval) (n d : Nat) : Bool :=
  if r.closed then decide (r.low * d ≤ n ∧ n ≤ r.high * d)
  else decide (r.low * d < n ∧ n < r.high * d)

/-- Whether a number of quarter steps is below `10 ^ p`. -/
def belowPowerOfTen (quarters : Nat) (p : Int) : Bool :=
  let one := 4 * Binary64.stepsPerOne
  if 0 ≤ p then decide (quarters < one * Nat.pow 10 p.toNat)
  else decide (quarters * Nat.pow 10 (-p).toNat < one)

/-- The least `p` from `start` on, within `fuel` tries, with the number below `10 ^ p`. -/
def magnitudeFrom (quarters : Nat) (start : Int) : (fuel : Nat) → Int
  | 0 => start
  | fuel + 1 =>
    if belowPowerOfTen quarters start then start else magnitudeFrom quarters (start + 1) fuel

/-- The least `p` with the number below `10 ^ p`, found from the binary logarithm. -/
def magnitude (quarters : Nat) : Int :=
  let log := (Nat.log2 quarters : Int) - 1076
  magnitudeFrom quarters (log * 30103 / 100000 - 1) 8

/-- The point of the grid with spacing `10 ^ (p - count)` that is nearest to the number among the
two around it that lie in its interval; of two at one distance, the even one. -/
def gridPoint? (r : RoundingInterval) (p : Int) (count : Nat) : Option Nat :=
  let one := 4 * Binary64.stepsPerOne
  let spacing := p - (count : Int)
  let (num, den) :=
    if 0 ≤ spacing then (one * Nat.pow 10 spacing.toNat, 1)
    else (one, Nat.pow 10 (-spacing).toNat)
  let k := r.value * den / num
  let below := r.contains (k * num) den
  let above := r.contains ((k + 1) * num) den
  if below && above then
    let twice := 2 * (r.value * den)
    let middle := (2 * k + 1) * num
    if twice < middle ∨ (twice = middle ∧ k % 2 = 0) then some k else some (k + 1)
  else if below then some k
  else if above then some (k + 1)
  else none

/-- The first grid, from `count` digits on, with a point in the interval. -/
def shortestFrom (r : RoundingInterval) (p : Int) (count : Nat) : (fuel : Nat) → Nat × Nat
  | 0 => (r.value, count)
  | fuel + 1 =>
    match gridPoint? r p count with
    | some k => (k, count)
    | none => shortestFrom r p (count + 1) fuel

/-- The shortest digits `d` of a positive number of steps and the exponent `p` such that the number
is `0.d * 10 ^ p`; no digit string ends in a zero. -/
def shortestDigits (steps : Nat) : List Char × Int :=
  let r := RoundingInterval.ofSteps steps
  let p := magnitude r.value
  let (k, count) := shortestFrom r p 1 17
  let digits := Nat.toDigits 10 k
  let point := p + ((digits.length : Int) - (count : Int))
  let kept := (digits.reverse.dropWhile (· == '0')).reverse
  (kept, point)

/-- How a floating point number is written. -/
structure FloatFormat where
  /-- The least exponent `p` of `0.d * 10 ^ p` that is written positionally. -/
  least : Int
  /-- The greatest exponent that is written positionally. -/
  greatest : Int
  /-- The least number of digits of a written exponent. -/
  exponentDigits : Nat
  nan : String
  infinity : String

/-- Numbers from `1e-4` up to below `1e16` are written positionally, with a fractional part. -/
def plainFormat : FloatFormat := ⟨-3, 16, 2, "nan", "inf"⟩

/-- An exponent behind its mark and its sign. -/
def writeExponent (f : FloatFormat) (e : Int) : List Char :=
  let digits := Nat.toDigits 10 e.natAbs
  let zeros := List.replicate (f.exponentDigits - digits.length) '0'
  'e' :: (if e < 0 then '-' else '+') :: (zeros ++ digits)

/-- The digits `d` of `0.d * 10 ^ p`, written positionally or with an exponent. -/
def writeDigits (f : FloatFormat) (digits : List Char) (p : Int) : List Char :=
  if p < f.least ∨ f.greatest < p then
    match digits with
    | [] => ['0']
    | d :: [] => d :: writeExponent f (p - 1)
    | d :: rest => d :: '.' :: (rest ++ writeExponent f (p - 1))
  else if p ≤ 0 then '0' :: '.' :: (List.replicate (-p).toNat '0' ++ digits)
  else
    let whole := digits.take p.toNat
    let pad := List.replicate (p.toNat - digits.length) '0'
    let fraction := digits.drop p.toNat
    whole ++ pad ++ '.' :: (if fraction.isEmpty then ['0'] else fraction)

/-- The text of a floating point number: the shortest that reads back. -/
def writeFloat (f : FloatFormat) : Binary64 → String
  | .nan => f.nan
  | .infinite negative => if negative then "-" ++ f.infinity else f.infinity
  | .negativeZero => "-0.0"
  | .finite s =>
    if s = 0 then "0.0"
    else
      let (digits, p) := shortestDigits s.natAbs
      let body := String.ofList (writeDigits f digits p)
      if s < 0 then "-" ++ body else body

end OutlineSearch.Number
