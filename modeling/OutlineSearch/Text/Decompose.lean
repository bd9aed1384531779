import OutlineSearch.Text.Class
import OutlineSearch.Text.Decompositions
import OutlineSearch.Text.CombiningClasses

/-!
# Canonical decomposition

A text is decomposed character by character; then each run of combining characters is put in
increasing order of combining class, equal classes keeping their order.
-/

namespace OutlineSearch.Text

/-- The canonical combining class of a character. -/
def combiningClass (c : Char) : Nat :=
  let n := c.toNat
  if n < 0x300 then 0
  else
    let i := bisect (fun i => (combiningClasses.getD i (0, 0, 0)).1) n 0 combiningClasses.size
    let (first, last, k) := combiningClasses.getD i (1, 0, 0)
    if first ≤ n ∧ n ≤ last then k else 0

/-- The one or two code points that a character stands for. -/
def decompositionStep? (n : Nat) : Option (Nat × Nat) :=
  if n < 0xC0 then none
  else
    let i := bisect (fun i => (decompositions.getD i (0, 0, 0)).1) n 0 decompositions.size
    let (key, first, second) := decompositions.getD i (0, 0, 0)
    if key = n then some (first, second) else none

/-- The canonical decomposition of a code point in at most `depth` steps. -/
def decomposeCode (n : Nat) : (depth : Nat) → List Nat
  | 0 => [n]
  | depth + 1 =>
    match decompositionStep? n with
    | none => [n]
    | some (first, second) =>
      decomposeCode first depth ++ (if second = 0 then [] else [second])

/-- The vowel and consonant letters of a Hangul syllable, or the decomposition of any other
character. -/
def decomposeChar (c : Char) : List Char :=
  let n := c.toNat
  if 0xAC00 ≤ n ∧ n ≤ 0xD7A3 then
    let s := n - 0xAC00
    let tail := s % 28
    [Char.ofNat (0x1100 + s / 588), Char.ofNat (0x1161 + s % 588 / 28)] ++
      (if tail = 0 then [] else [Char.ofNat (0x11A7 + tail)])
  else (decomposeCode n 4).map Char.ofNat

/-- Puts a combining character behind those of a class that is not greater. -/
def insertMark (m : Char) : List Char → List Char
  | [] => [m]
  | x :: rest =>
    if combiningClass m < combiningClass x then m :: x :: rest else x :: insertMark m rest

/-- The text with each run of combining characters in order of class; `marks` is the sorted run in
front of it. -/
def orderMarksFrom (marks : List Char) : List Char → List Char
  | [] => marks
  | c :: rest =>
    if combiningClass c = 0 then marks ++ c :: orderMarksFrom [] rest
    else orderMarksFrom (insertMark c marks) rest

/-- The canonical decomposition of a text. -/
def decompose (s : List Char) : List Char := orderMarksFrom [] (s.flatMap decomposeChar)

end OutlineSearch.Text
