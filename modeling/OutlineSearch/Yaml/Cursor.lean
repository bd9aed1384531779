import OutlineSearch.Fault

/-!
# A place in a YAML text

A cursor holds the text that is still to be read with its place. The end of the text reads as a NUL
character, which no YAML text contains.
-/

namespace OutlineSearch.Yaml

/-- Why a text gives no value: it is not well formed, or a scalar in it fails to be built. -/
inductive Trouble where
  | malformed
  | failed (fault : Fault)
deriving Repr, Inhabited

/-- A reading step. -/
abbrev Reading (α : Type) := Except Trouble α

/-- Whether a character breaks a line. -/
def isBreak (c : Char) : Bool :=
  c == '\n' || c == '\r' || c == '\x85' || c == '\u2028' || c == '\u2029'

/-- Whether a character is the end of the text or breaks a line. -/
def isBreakOrEnd (c : Char) : Bool := c == '\x00' || isBreak c

/-- Whether a character is the end of the text, a space or a line break. -/
def isSpaceOrEnd (c : Char) : Bool := c == ' ' || isBreakOrEnd c

/-- Whether a character is the end of the text, a space, a tab or a line break. -/
def isBlankOrEnd (c : Char) : Bool := c == '\t' || isSpaceOrEnd c

/-- The text still to be read, and where it starts. -/
structure Cursor where
  rest : List Char
  index : Nat := 0
  line : Nat := 0
  column : Nat := 0
deriving Repr, Inhabited

namespace Cursor

/-- The character some places ahead. -/
def peek (c : Cursor) (ahead : Nat := 0) : Char := c.rest.getD ahead '\x00'

/-- The cursor behind the next character. -/
def advance (c : Cursor) : Cursor :=
  match c.rest with
  | [] => c
  | a :: rest =>
    let ends := isBreak a && !(a == '\r' && rest.head? == some '\n')
    { rest := rest
      index := c.index + 1
      line := if ends then c.line + 1 else c.line
      column := if ends then 0 else if a == '\uFEFF' then c.column else c.column + 1 }

/-- The cursor behind a number of characters. -/
def advanceBy (c : Cursor) : Nat → Cursor
  | 0 => c
  | n + 1 => c.advance.advanceBy n

/-- The longest run of characters of a class, and the cursor behind it. -/
def takeWhile (p : Char → Bool) (c : Cursor) : List Char × Cursor :=
  let taken := c.rest.takeWhile p
  (taken, c.advanceBy taken.length)

/-- The cursor behind the longest run of characters of a class. -/
def skipWhile (p : Char → Bool) (c : Cursor) : Cursor := (c.takeWhile p).2

/-- The line break at the cursor in its normal form, nothing when there is none, and the cursor
behind it. -/
def lineBreak (c : Cursor) : List Char × Cursor :=
  match c.rest with
  | '\r' :: '\n' :: _ => (['\n'], c.advanceBy 2)
  | a :: _ =>
    if a == '\u2028' || a == '\u2029' then ([a], c.advance)
    else if isBreak a then (['\n'], c.advance)
    else ([], c)
  | [] => ([], c)

/-- Whether a document mark stands at the cursor. -/
def atMark (c : Cursor) (mark : Char) : Bool :=
  c.peek 0 == mark && c.peek 1 == mark && c.peek 2 == mark && isBlankOrEnd (c.peek 3)

/-- Whether a mark that starts or ends a document stands at the cursor. -/
def atDocumentMark (c : Cursor) : Bool := c.atMark '-' || c.atMark '.'

end Cursor

end OutlineSearch.Yaml
