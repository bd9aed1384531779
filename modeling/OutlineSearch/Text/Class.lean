import OutlineSearch.Text.Blank
import OutlineSearch.Text.WordRanges
import OutlineSearch.Text.DigitRanges
import OutlineSearch.Text.UnprintableRanges

/-!
# Character classes

Membership in a table of ranges is found by bisection. A decimal digit has a value whatever its
script; a printable character stands for itself in a quoted text.
-/

namespace OutlineSearch.Text

/-- The index of the last entry from `low` on and below `high` whose key is at most `n`, or `low`
when there is none. -/
def bisect (keys : Nat → Nat) (n low high : Nat) : Nat :=
  if h : low + 1 < high then
    let middle := (low + high) / 2
    if keys middle ≤ n then bisect keys n middle high else bisect keys n low middle
  else low
termination_by high - low

/-- Whether a code point lies in one of the increasing closed ranges. -/
def inRanges (ranges : Array (Nat × Nat)) (n : Nat) : Bool :=
  let i := bisect (fun i => (ranges.getD i (0, 0)).1) n 0 ranges.size
  let (low, high) := ranges.getD i (1, 0)
  low ≤ n && n ≤ high

/-- Whether a character is a letter, a number or the underscore. -/
def isWord (c : Char) : Bool :=
  if c.toNat < 128 then c.isAlphanum || c == '_' else inRanges wordRanges c.toNat

/-- The value of a decimal digit of any script. -/
def digitValue? (c : Char) : Option Nat :=
  let n := c.toNat
  if n < 128 then (if c.isDigit then some (n - 48) else none)
  else
    let start := digitZeros.getD (bisect (fun i => digitZeros.getD i 0) n 0 digitZeros.size) 0
    if start ≤ n ∧ n < start + 10 then some (n - start) else none

/-- Whether a character is a decimal digit of any script. -/
def isDecimal (c : Char) : Bool := (digitValue? c).isSome

/-- Whether a character counts as a digit, superscripts and their like included. -/
def isDigitLike (c : Char) : Bool := isDecimal c || inRanges otherDigitRanges c.toNat

/-- Whether a character stands for itself in a quoted text. -/
def isPrintable (c : Char) : Bool := !inRanges unprintableRanges c.toNat

/-- Whether a character is an ASCII letter. -/
def isLatin (c : Char) : Bool := c.isAlpha

end OutlineSearch.Text
