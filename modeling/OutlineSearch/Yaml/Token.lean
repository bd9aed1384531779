import OutlineSearch.Yaml.Scalar
import OutlineSearch.Text.Utf8

/-!
# YAML tokens

The tokens of a text in order. Collections that are marked by indentation get tokens for their start
and end. A key need not be announced: a possible key is remembered, and its token is put in front of
it when a colon follows.
-/

namespace OutlineSearch.Yaml

/-- A token of a YAML text. -/
inductive Token where
  | version (major : Nat)
  | tagHandle (handle replacement : List Char)
  | otherDirective
  | documentStart
  | documentEnd
  | blockSequenceStart
  | blockMappingStart
  | blockEnd
  | flowSequenceStart
  | flowSequenceEnd
  | flowMappingStart
  | flowMappingEnd
  | key
  | value
  | blockEntry
  | flowEntry
  | reference (name : List Char)
  | anchor (name : List Char)
  | tag (handle : Option (List Char)) (suffix : List Char)
  | scalar (text : List Char) (plain : Bool)
deriving Repr, Inhabited

/-- A place where a key may have started. -/
structure PossibleKey where
  level : Nat
  tokenNumber : Nat
  required : Bool
  index : Nat
  line : Nat
  column : Nat

/-- The tokens that have been read, and what decides how the text goes on. -/
structure Lexer where
  cursor : Cursor
  tokens : Array Token := #[]
  level : Nat := 0
  indent : Int := -1
  indents : List Int := []
  keyAllowed : Bool := true
  keys : List PossibleKey := []

namespace Lexer

/-- The lexer with a token added. -/
def push (x : Lexer) (t : Token) : Lexer := { x with tokens := x.tokens.push t }

/-- The lexer behind a number of characters, with a token added for them. -/
def take (x : Lexer) (n : Nat) (t : Token) : Lexer :=
  { x with cursor := x.cursor.advanceBy n }.push t

/-- The lexer without the possible keys that lie on another line or too far back. -/
def dropStaleKeys (x : Lexer) : Reading Lexer :=
  let stale (k : PossibleKey) : Bool :=
    k.line != x.cursor.line || 1024 < x.cursor.index - k.index
  if x.keys.any fun k => stale k && k.required then .error .malformed
  else .ok { x with keys := x.keys.filter fun k => !stale k }

/-- The lexer without the possible key of the present level. -/
def dropKey (x : Lexer) : Reading Lexer :=
  if x.keys.any fun k => k.level == x.level && k.required then .error .malformed
  else .ok { x with keys := x.keys.filter fun k => k.level != x.level }

/-- The lexer that remembers the present place as a possible key. -/
def saveKey (x : Lexer) : Reading Lexer := do
  if x.keyAllowed then
    let required := x.level == 0 && x.indent == (x.cursor.column : Int)
    let x ← x.dropKey
    let k : PossibleKey :=
      ⟨x.level, x.tokens.size, required, x.cursor.index, x.cursor.line, x.cursor.column⟩
    return { x with keys := k :: x.keys }
  else return x

/-- Ends the collections that are indented deeper than a column; `open_` are the indentations
around the innermost one. -/
def unwindFrom (x : Lexer) (column : Int) : List Int → Lexer
  | [] => x
  | outer :: rest =>
    if column < x.indent then
      unwindFrom ({ x with indent := outer, indents := rest }.push .blockEnd) column rest
    else x

/-- Ends the collections that are indented deeper than a column, outside flow collections. -/
def unwind (x : Lexer) (column : Int) : Lexer :=
  if x.level = 0 then x.unwindFrom column x.indents else x

/-- The lexer inside a collection at a column, and whether that collection is new. -/
def addIndent (x : Lexer) (column : Int) : Bool × Lexer :=
  if x.indent < column then
    (true, { x with indents := x.indent :: x.indents, indent := column })
  else (false, x)

/-- The cursor behind spaces, comments and line breaks, and whether a line was broken. -/
def skipToToken : (fuel : Nat) → Bool → Cursor → Bool × Cursor
  | 0, broken, c => (broken, c)
  | fuel + 1, broken, c =>
    let c := c.skipWhile (· == ' ')
    let c := if c.peek == '#' then c.skipWhile fun a => !isBreak a else c
    if isBreak c.peek then skipToToken fuel true c.lineBreak.2 else (broken, c)

/-- Whether a character belongs to the name of an anchor. -/
def isNameChar (c : Char) : Bool := c.isAlphanum || c == '-' || c == '_'

/-- The name of an anchor or alias behind its indicator. -/
def anchorName (c : Cursor) : Reading (List Char × Cursor) :=
  let (name, c) := c.takeWhile isNameChar
  if name.isEmpty then .error .malformed
  else if isBlankOrEnd c.peek || "?:,]\x7d%@`".toList.contains c.peek then .ok (name, c)
  else .error .malformed

/-- Whether a character belongs to a tag. -/
def isTagChar (c : Char) : Bool :=
  c.isAlphanum || "-;/?:@&=+$,_.!~*'()[]%".toList.contains c

/-- The bytes of the escapes at the start of a text, and the text behind them. -/
def percentBytes : List Char → Reading (List Nat × List Char)
  | '%' :: a :: b :: rest =>
    if isHexDigit a && isHexDigit b then do
      let (more, rest) ← percentBytes rest
      return (((Number.readInBase? 16 [a, b]).getD 0).toNat :: more, rest)
    else .error .malformed
  | '%' :: _ => .error .malformed
  | s => .ok ([], s)

/-- The characters of a tag with its escapes read. -/
def unescapeTag : (fuel : Nat) → List Char → Reading (List Char)
  | 0, _ => .ok []
  | _, [] => .ok []
  | fuel + 1, c :: rest =>
    if c == '%' then do
      let (bytes, rest) ← percentBytes (c :: rest)
      match Text.decode bytes with
      | .ok cs => return cs ++ (← unescapeTag fuel rest)
      | .error _ => .error .malformed
    else do return c :: (← unescapeTag fuel rest)

/-- The characters of a tag behind its handle. -/
def tagSuffix (c : Cursor) : Reading (List Char × Cursor) := do
  let (raw, c) := c.takeWhile isTagChar
  if raw.isEmpty then .error .malformed
  else return (← unescapeTag (raw.length + 1) raw, c)

/-- A handle of a tag, from its exclamation mark on. -/
def tagHandle (c : Cursor) : Reading (List Char × Cursor) :=
  if c.peek != '!' then .error .malformed
  else if c.peek 1 == ' ' then .ok (['!'], c.advance)
  else
    let (name, c) := c.advance.takeWhile isNameChar
    if c.peek == '!' then .ok ('!' :: (name ++ ['!']), c.advance) else .error .malformed

/-- A tag, from its exclamation mark on. -/
def tag (c : Cursor) : Reading (Token × Cursor) := do
  let (t, c) ←
    if c.peek 1 == '<' then do
      let (suffix, c) ← tagSuffix (c.advanceBy 2)
      if c.peek == '>' then pure (Token.tag none suffix, c.advance) else .error .malformed
    else if isBlankOrEnd (c.peek 1) then pure (Token.tag none ['!'], c.advance)
    else do
      let named := (c.advance.rest.takeWhile fun a => !isSpaceOrEnd a).contains '!'
      let (handle, c) ← if named then tagHandle c else pure (['!'], c.advance)
      let (suffix, c) ← tagSuffix c
      pure (Token.tag (some handle) suffix, c)
  if isSpaceOrEnd c.peek then return (t, c) else .error .malformed

/-- A number in a directive. -/
def directiveNumber (c : Cursor) : Reading (Nat × Cursor) :=
  let (digits, c) := c.takeWhile Char.isDigit
  if digits.isEmpty then .error .malformed
  else .ok (Number.ofDigits (digits.map fun d => d.toNat - 48), c)

/-- A directive behind its percent sign. -/
def directive (c : Cursor) : Reading (Token × Cursor) := do
  let (name, c) := c.takeWhile isNameChar
  if name.isEmpty || !isSpaceOrEnd c.peek then .error .malformed
  else
    let skip (c : Cursor) : Cursor := c.skipWhile (· == ' ')
    let (t, c) ←
      if name == "YAML".toList then do
        let (major, c) ← directiveNumber (skip c)
        if c.peek != '.' then .error .malformed
        else
          let (_, c) ← directiveNumber c.advance
          if isSpaceOrEnd c.peek then pure (Token.version major, c) else .error .malformed
      else if name == "TAG".toList then do
        let (handle, c) ← tagHandle (skip c)
        if c.peek != ' ' then .error .malformed
        else
          let (replacement, c) ← tagSuffix (skip c)
          if isSpaceOrEnd c.peek then pure (Token.tagHandle handle replacement, c)
          else .error .malformed
      else pure (Token.otherDirective, c.skipWhile fun a => !isBreak a)
    return (t, ← ignoredLine c)

/-- Reads the start of a flow collection. -/
def startFlow (x : Lexer) (t : Token) : Reading Lexer := do
  let x ← x.saveKey
  return { x with level := x.level + 1, keyAllowed := true }.take 1 t

/-- Reads the end of a flow collection. -/
def endFlow (x : Lexer) (t : Token) : Reading Lexer := do
  let x ← x.dropKey
  if x.level = 0 then .error .malformed
  else return { x with level := x.level - 1, keyAllowed := false }.take 1 t

/-- Starts a collection at the present column when there is none, outside flow collections, where
an item must be allowed to start. -/
def startBlock (x : Lexer) (t : Token) : Reading Lexer :=
  if x.level ≠ 0 then .ok x
  else if !x.keyAllowed then .error .malformed
  else
    let (isNew, x) := x.addIndent x.cursor.column
    .ok (if isNew then x.push t else x)

/-- Reads the dash of an entry. -/
def blockEntry (x : Lexer) : Reading Lexer := do
  let x ← x.startBlock .blockSequenceStart
  let x ← { x with keyAllowed := true }.dropKey
  return x.take 1 .blockEntry

/-- Reads the question mark of a key. -/
def explicitKey (x : Lexer) : Reading Lexer := do
  let x ← x.startBlock .blockMappingStart
  let x ← { x with keyAllowed := x.level == 0 }.dropKey
  return x.take 1 .key

/-- The tokens with some inserted in front of the one with a number. -/
def insertAt (tokens : Array Token) (number : Nat) (inserted : List Token) : Array Token :=
  ((tokens.toList.take number) ++ inserted ++ (tokens.toList.drop number)).toArray

/-- Reads the colon of a value. -/
def value (x : Lexer) : Reading Lexer := do
  match x.keys.find? fun k => k.level == x.level with
  | some k =>
    let x := { x with keys := x.keys.filter fun k => k.level != x.level, keyAllowed := false }
    let (isNew, x) := if x.level = 0 then x.addIndent k.column else (false, x)
    let inserted := if isNew then [Token.blockMappingStart, .key] else [.key]
    return { x with tokens := insertAt x.tokens k.tokenNumber inserted }.take 1 .value
  | none =>
    let x ← x.startBlock .blockMappingStart
    let x ← { x with keyAllowed := x.level == 0 }.dropKey
    return x.take 1 .value

/-- Reads a mark that starts or ends a document. -/
def documentMark (x : Lexer) (t : Token) : Reading Lexer := do
  let x ← (x.unwind (-1)).dropKey
  return { x with keyAllowed := false }.take 3 t

/-- Whether a plain scalar starts at the cursor. -/
def startsPlain (x : Lexer) : Bool :=
  let a := x.cursor.peek
  let indicator := isBlankOrEnd a || "-?:,[]\x7b\x7d#&*!|>'\"%@`".toList.contains a
  !indicator ||
    (!isBlankOrEnd (x.cursor.peek 1) &&
      (a == '-' || (x.level == 0 && (a == '?' || a == ':'))))

/-- Reads a token that may be a key. -/
def keyToken (x : Lexer) (read : Cursor → Reading (Token × Cursor)) : Reading Lexer := do
  let x ← x.saveKey
  let (t, c) ← read x.cursor
  return { x with keyAllowed := false, cursor := c }.push t

/-- Reads a plain scalar. -/
def plain (x : Lexer) : Reading Lexer := do
  let x ← x.saveKey
  let (text, broken, c) := plainScalar ⟨x.indent + 1, x.level ≠ 0⟩ x.cursor
  return { x with keyAllowed := broken, cursor := c }.push (.scalar text true)

/-- Reads a block scalar. -/
def block (x : Lexer) (folded : Bool) : Reading Lexer := do
  let x ← { x with keyAllowed := true }.dropKey
  let (text, c) ← blockScalar folded x.indent x.cursor.advance
  return { x with cursor := c }.push (.scalar text false)

/-- Reads the token at the cursor. -/
def token (x : Lexer) : Reading Lexer :=
  let c := x.cursor
  let a := c.peek
  let next := c.peek 1
  let outside := x.level == 0
  if a == '%' && c.column == 0 then do
    let x ← (x.unwind (-1)).dropKey
    let (t, c) ← directive x.cursor.advance
    return { x with keyAllowed := false, cursor := c }.push t
  else if c.column == 0 && c.atMark '-' then x.documentMark .documentStart
  else if c.column == 0 && c.atMark '.' then x.documentMark .documentEnd
  else if a == '[' then x.startFlow .flowSequenceStart
  else if a == '\x7b' then x.startFlow .flowMappingStart
  else if a == ']' then x.endFlow .flowSequenceEnd
  else if a == '\x7d' then x.endFlow .flowMappingEnd
  else if a == ',' then do
    let x ← { x with keyAllowed := true }.dropKey
    return x.take 1 .flowEntry
  else if a == '-' && isBlankOrEnd next then x.blockEntry
  else if a == '?' && (!outside || isBlankOrEnd next) then x.explicitKey
  else if a == ':' && (!outside || isBlankOrEnd next) then x.value
  else if a == '*' then x.keyToken fun c => do
    let (name, c) ← anchorName c.advance
    return (.reference name, c)
  else if a == '&' then x.keyToken fun c => do
    let (name, c) ← anchorName c.advance
    return (.anchor name, c)
  else if a == '!' then x.keyToken tag
  else if a == '|' && outside then x.block false
  else if a == '>' && outside then x.block true
  else if a == '\'' || a == '"' then x.keyToken fun c => do
    let (text, c) ← quotedScalar (a == '"') c.advance
    return (.scalar text false, c)
  else if x.startsPlain then x.plain
  else .error .malformed

/-- Reads all tokens up to the end of the text. -/
def run : (fuel : Nat) → Lexer → Reading Lexer
  | 0, _ => .error .malformed
  | fuel + 1, x => do
    let (broken, c) := skipToToken (x.cursor.rest.length + 1) false x.cursor
    let x := { x with cursor := c, keyAllowed := x.keyAllowed || (broken && x.level == 0) }
    let x ← x.dropStaleKeys
    let x := x.unwind x.cursor.column
    if x.cursor.rest.isEmpty then (x.unwind (-1)).dropKey else run fuel (← x.token)

end Lexer

/-- Whether a character may stand in a YAML text. -/
def isReadable (c : Char) : Bool :=
  let n := c.toNat
  n == 9 || n == 10 || n == 13 || (0x20 ≤ n && n ≤ 0x7E) || n == 0x85 ||
    (0xA0 ≤ n && n ≤ 0xD7FF) || (0xE000 ≤ n && n ≤ 0xFFFD) || 0x10000 ≤ n

/-- The tokens of a text. -/
def tokens (s : List Char) : Reading (List Token) := do
  if !s.all isReadable then .error .malformed
  else
    let start : Cursor := { rest := s }
    let start := if start.peek == '\uFEFF' then start.advance else start
    let x ← Lexer.run (s.length + 2) { cursor := start }
    return x.tokens.toList

end OutlineSearch.Yaml
