import OutlineSearch.Yaml.Cursor
import OutlineSearch.Number.Numeral

/-!
# Scalars in a YAML text

Plain, quoted and block scalars. A line break inside a scalar is folded to a space, except in a
literal block; further breaks are kept. Every function yields the text of the scalar and the cursor
behind it.
-/

namespace OutlineSearch.Yaml

/-- Where a scalar is read: the column that its lines must be indented to and whether it stands in
a flow collection. -/
structure ScalarPlace where
  indent : Int
  inFlow : Bool

/-- Whether a plain scalar ends in front of the given text. -/
def endsPlain (inFlow : Bool) (s : List Char) : Bool :=
  match s with
  | [] => true
  | c :: rest =>
    let next := rest.headD '\x00'
    isBlankOrEnd c ||
      (c == ':' && (isBlankOrEnd next || (inFlow && ",[]\x7b\x7d".toList.contains next))) ||
      (inFlow && ",?[]\x7b\x7d".toList.contains c)

/-- The length of the piece of a plain scalar at the start of a text. -/
def plainLength (inFlow : Bool) : List Char → Nat
  | [] => 0
  | c :: rest => if endsPlain inFlow (c :: rest) then 0 else plainLength inFlow rest + 1

/-- The line breaks at the cursor between spaces, or nothing when they lead to a document mark. -/
def plainBreaks : (fuel : Nat) → Cursor → Option (List Char) × Cursor
  | 0, c => (some [], c)
  | fuel + 1, c =>
    if c.peek == ' ' then plainBreaks fuel c.advance
    else if isBreak c.peek then
      let (b, c) := c.lineBreak
      if c.atDocumentMark then (none, c)
      else
        let (more, c) := plainBreaks fuel c
        (more.map (b ++ ·), c)
    else (some [], c)

/-- A first line break and those after it, folded. -/
def foldBreaks (first more : List Char) : List Char :=
  if first ≠ ['\n'] then first ++ more else if more.isEmpty then [' '] else more

/-- The spaces and breaks behind a piece of a plain scalar, nothing when they end it; whether a line
was broken; and the cursor behind them. -/
def plainSpaces (c : Cursor) : Option (List Char) × Bool × Cursor :=
  let (spaces, c) := c.takeWhile (· == ' ')
  if isBreak c.peek then
    let (first, c) := c.lineBreak
    if c.atDocumentMark then (none, true, c)
    else
      match plainBreaks (c.rest.length + 1) c with
      | (none, c) => (none, true, c)
      | (some more, c) => (some (foldBreaks first more), true, c)
  else if spaces.isEmpty then (none, false, c)
  else (some spaces, false, c)

/-- The text of a plain scalar from a piece on, whether its last spaces broke a line, and the cursor
behind them. -/
def plainFrom (place : ScalarPlace) (spaces : List Char) (broken : Bool) :
    (fuel : Nat) → Cursor → List Char × Bool × Cursor
  | 0, c => ([], broken, c)
  | fuel + 1, c =>
    let length := if c.peek == '#' then 0 else plainLength place.inFlow c.rest
    if length = 0 then ([], broken, c)
    else
      let piece := spaces ++ c.rest.take length
      match plainSpaces (c.advanceBy length) with
      | (none, broken, c) => (piece, broken, c)
      | (some spaces, broken, c) =>
        if c.peek == '#' || (!place.inFlow && (c.column : Int) < place.indent) then
          (piece, broken, c)
        else
          let (more, broken, c) := plainFrom place spaces broken fuel c
          (piece ++ more, broken, c)

/-- A plain scalar. -/
def plainScalar (place : ScalarPlace) (c : Cursor) : List Char × Bool × Cursor :=
  plainFrom place [] false (c.rest.length + 1) c

/-- The character of an escape of one letter. -/
def escapeChar? : Char → Option Char
  | '0' => some '\x00'
  | 'a' => some '\x07'
  | 'b' => some '\x08'
  | 't' => some '\t'
  | '\t' => some '\t'
  | 'n' => some '\n'
  | 'v' => some '\x0b'
  | 'f' => some '\x0c'
  | 'r' => some '\r'
  | 'e' => some '\x1b'
  | ' ' => some ' '
  | '"' => some '"'
  | '\\' => some '\\'
  | '/' => some '/'
  | 'N' => some '\x85'
  | '_' => some '\xa0'
  | 'L' => some '\u2028'
  | 'P' => some '\u2029'
  | _ => none

/-- The number of hexadecimal digits of an escape by code. -/
def escapeWidth? : Char → Option Nat
  | 'x' => some 2
  | 'u' => some 4
  | 'U' => some 8
  | _ => none

/-- The line breaks at the cursor between blanks. -/
def quotedBreaks : (fuel : Nat) → Cursor → Reading (List Char × Cursor)
  | 0, _ => .error .malformed
  | fuel + 1, c =>
    if c.atDocumentMark then .error .malformed
    else
      let c := c.skipWhile fun a => a == ' ' || a == '\t'
      if isBreak c.peek then do
        let (b, c) := c.lineBreak
        let (more, c) ← quotedBreaks fuel c
        return (b ++ more, c)
      else .ok ([], c)

/-- Whether a character is a hexadecimal digit. -/
def isHexDigit (c : Char) : Bool :=
  c.isDigit || ('a' ≤ c && c ≤ 'f') || ('A' ≤ c && c ≤ 'F')

/-- The character that an escape by code stands for. -/
def codeChar (n : Nat) : Reading Char :=
  if n < 0x110000 then
    .ok (if 0xD800 ≤ n ∧ n < 0xE000 then '\uFFFD' else Char.ofNat n)
  else .error (.failed (.badValue "chr() arg not in range(0x110000)"))

/-- What stands behind a backslash in a double-quoted scalar. -/
def escape (c : Cursor) : Reading (List Char × Cursor) :=
  let a := c.peek
  match escapeChar? a with
  | some e => .ok ([e], c.advance)
  | none =>
    match escapeWidth? a with
    | some width =>
      let digits := c.advance.rest.take width
      if digits.length = width ∧ digits.all isHexDigit then do
        let e ← codeChar ((Number.readInBase? 16 digits).getD 0).toNat
        return ([e], c.advanceBy (width + 1))
      else .error .malformed
    | none =>
      if isBreak a then
        let (_, c) := c.lineBreak
        quotedBreaks (c.rest.length + 1) c
      else .error .malformed

/-- The blanks and breaks inside a quoted scalar. -/
def quotedSpaces (c : Cursor) : Reading (List Char × Cursor) :=
  let (spaces, c) := c.takeWhile fun a => a == ' ' || a == '\t'
  if c.rest.isEmpty then .error .malformed
  else if isBreak c.peek then do
    let (first, c) := c.lineBreak
    let (more, c) ← quotedBreaks (c.rest.length + 1) c
    return (foldBreaks first more, c)
  else .ok (spaces, c)

/-- The text of a quoted scalar up to its closing quote, and the cursor behind the quote. -/
def quotedFrom (double : Bool) : (fuel : Nat) → Cursor → Reading (List Char × Cursor)
  | 0, _ => .error .malformed
  | fuel + 1, c => do
    let a := c.peek
    if c.rest.isEmpty then .error .malformed
    else if !double && a == '\'' && c.peek 1 == '\'' then
      let (more, c) ← quotedFrom double fuel (c.advanceBy 2)
      return ('\'' :: more, c)
    else if a == (if double then '"' else '\'') then return ([], c.advance)
    else if double && a == '\\' then
      let (e, c) ← escape c.advance
      let (more, c) ← quotedFrom double fuel c
      return (e ++ more, c)
    else if isBlankOrEnd a then
      let (spaces, c) ← quotedSpaces c
      let (more, c) ← quotedFrom double fuel c
      return (spaces ++ more, c)
    else
      let (more, c) ← quotedFrom double fuel c.advance
      return (a :: more, c)

/-- A quoted scalar behind its opening quote. -/
def quotedScalar (double : Bool) (c : Cursor) : Reading (List Char × Cursor) :=
  quotedFrom double (c.rest.length + 1) c

/-- What becomes of the line breaks at the end of a block scalar. -/
inductive Chomping where
  | strip
  | clip
  | keep
deriving DecidableEq

/-- The header of a block scalar: its chomping and the indentation that it states. -/
def blockHeader (c : Cursor) : Reading (Chomping × Option Nat × Cursor) :=
  let chomping? (c : Cursor) : Option Chomping :=
    if c.peek == '+' then some .keep else if c.peek == '-' then some .strip else none
  let indent? (c : Cursor) : Reading (Option Nat × Cursor) :=
    if c.peek.isDigit then
      if c.peek == '0' then .error .malformed else .ok (some (c.peek.toNat - 48), c.advance)
    else .ok (none, c)
  do
    let (chomping, indent, c) ← match chomping? c with
      | some k => do
        let (n, c) ← indent? c.advance
        pure (k, n, c)
      | none => do
        let (n, c) ← indent? c
        match n, chomping? c with
        | some n, some k => pure (k, some n, c.advance)
        | n, _ => pure (Chomping.clip, n, c)
    if isSpaceOrEnd c.peek then return (chomping, indent, c) else .error .malformed

/-- The cursor behind the rest of a line that may hold spaces and a comment only. -/
def ignoredLine (c : Cursor) : Reading Cursor :=
  let c := c.skipWhile (· == ' ')
  let c := if c.peek == '#' then c.skipWhile fun a => !isBreak a else c
  if isBreakOrEnd c.peek then .ok c.lineBreak.2 else .error .malformed

/-- The line breaks at the cursor between spaces, and the largest column reached. -/
def blockIndentation (deepest : Nat) : (fuel : Nat) → Cursor → List Char × Nat × Cursor
  | 0, c => ([], deepest, c)
  | fuel + 1, c =>
    if c.peek == ' ' then
      let c := c.advance
      blockIndentation (max deepest c.column) fuel c
    else if isBreak c.peek then
      let (b, c) := c.lineBreak
      let (more, deepest, c) := blockIndentation deepest fuel c
      (b ++ more, deepest, c)
    else ([], deepest, c)

/-- The cursor behind spaces up to a column. -/
def skipIndent (indent : Int) : (fuel : Nat) → Cursor → Cursor
  | 0, c => c
  | fuel + 1, c =>
    if (c.column : Int) < indent ∧ c.peek = ' ' then skipIndent indent fuel c.advance else c

/-- The line breaks at the cursor between spaces up to a column. -/
def blockBreaks (indent : Int) : (fuel : Nat) → Cursor → List Char × Cursor
  | 0, c => ([], c)
  | fuel + 1, c =>
    let c := skipIndent indent (c.rest.length + 1) c
    if isBreak c.peek then
      let (b, c) := c.lineBreak
      let (more, c) := blockBreaks indent fuel c
      (b ++ more, c)
    else ([], c)

/-- The lines of a block scalar from a line on: the text, the break of the last line, the breaks
behind it and the cursor behind them. -/
def blockLines (folded : Bool) (indent : Int) (lastBreak breaks : List Char) :
    (fuel : Nat) → Cursor → List Char × List Char × List Char × Cursor
  | 0, c => ([], lastBreak, breaks, c)
  | fuel + 1, c =>
    if (c.column : Int) = indent ∧ ¬c.rest.isEmpty then
      let startsDense := !(c.peek == ' ' || c.peek == '\t')
      let (line, c) := c.takeWhile fun a => !isBreak a
      let (lineBreak, c) := c.lineBreak
      let (more, c) := blockBreaks indent (c.rest.length + 1) c
      let text := breaks ++ line
      if (c.column : Int) = indent ∧ ¬c.rest.isEmpty then
        let joint :=
          if folded && lineBreak == ['\n'] && startsDense && !(c.peek == ' ' || c.peek == '\t') then
            (if more.isEmpty then [' '] else [])
          else lineBreak
        let (rest, lineBreak, more, c) := blockLines folded indent lineBreak more fuel c
        (text ++ joint ++ rest, lineBreak, more, c)
      else (text, lineBreak, more, c)
    else ([], lastBreak, breaks, c)

/-- A block scalar behind its indicator, `indent` being the column of the collection around it. -/
def blockScalar (folded : Bool) (indent : Int) (c : Cursor) : Reading (List Char × Cursor) := do
  let (chomping, stated, c) ← blockHeader c
  let c ← ignoredLine c
  let least := max (indent + 1) 1
  let (breaks, column, c) := match stated with
    | none =>
      let (breaks, deepest, c) := blockIndentation 0 (c.rest.length + 1) c
      (breaks, max least deepest, c)
    | some n =>
      let column := least + n - 1
      let (breaks, c) := blockBreaks column (c.rest.length + 1) c
      (breaks, column, c)
  let (text, lastBreak, breaks, c) := blockLines folded column [] breaks (c.rest.length + 1) c
  let text := if chomping = .strip then text else text ++ lastBreak
  return (if chomping = .keep then text ++ breaks else text, c)

end OutlineSearch.Yaml
