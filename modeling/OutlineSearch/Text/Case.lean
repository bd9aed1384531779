import OutlineSearch.Text.Class
import OutlineSearch.Text.LowerRuns
import OutlineSearch.Text.CaseContext

/-!
# Lower-case forms

The lower-case form of a text is made character by character, with two exceptions: the dotted
capital I becomes two characters, and a capital sigma becomes a final sigma at the end of a word.
-/

namespace OutlineSearch.Text

/-- The lower-case form of a character that has one of one character. -/
def lowerChar (c : Char) : Char :=
  let n := c.toNat
  if n < 128 then c.toLower
  else
    let i := bisect (fun i => (lowerRuns.getD i (0, 0, 1, 0)).1) n 0 lowerRuns.size
    let (first, last, step, shift) := lowerRuns.getD i (1, 0, 1, 0)
    if first ≤ n ∧ n ≤ last ∧ (n - first) % step = 0 then Char.ofNat ((n : Int) + shift).toNat
    else c

/-- Whether case rules pass over a character. -/
def isPassedOver (c : Char) : Bool := inRanges passedOverRanges c.toNat

/-- Whether a character that is not passed over has case. -/
def isCased (c : Char) : Bool := inRanges casedRanges c.toNat

/-- Whether the first character that is not passed over has case. -/
def startsCased (s : List Char) : Bool :=
  match s.dropWhile isPassedOver with
  | [] => false
  | c :: _ => isCased c

/-- The lower-case form of a text, `before` being the reversed text in front of it. -/
def lowerFrom (before : List Char) : List Char → List Char
  | [] => []
  | c :: rest =>
    let form :=
      if c == 'Σ' then
        (if startsCased before && !startsCased rest then ['ς'] else ['σ'])
      else if c == 'İ' then ['i', '\u0307']
      else [lowerChar c]
    form ++ lowerFrom (c :: before) rest

/-- The lower-case form of a text. -/
def lower (s : List Char) : List Char := lowerFrom [] s

/-- The lower-case form of a string. -/
def lowered (s : String) : String := String.ofList (lower s.toList)

/-- The capital form of a letter whose capital form is one ASCII letter; other characters stay. -/
def latinCapital (c : Char) : Char :=
  if c == 'ı' then 'I' else if c == 'ſ' then 'S' else c.toUpper

end OutlineSearch.Text
