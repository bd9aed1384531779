import OutlineSearch.Text.Utf8

/-!
# Texts in the encodings of Unicode

The encoding of some bytes is told by a byte order mark, or else by where the first zero bytes
stand; without either it is UTF-8.
-/

namespace OutlineSearch.Text

/-- An encoding. -/
inductive Charset where
  | utf8
  | utf16 (bigEndian : Bool)
  | utf32 (bigEndian : Bool)
deriving DecidableEq, Repr

/-- The encoding of some bytes, and the bytes behind the byte order mark. -/
def Charset.detect (data : List Nat) : Charset × List Nat :=
  match data with
  | 0x00 :: 0x00 :: 0xFE :: 0xFF :: rest => (.utf32 true, rest)
  | 0xFF :: 0xFE :: 0x00 :: 0x00 :: rest => (.utf32 false, rest)
  | 0xFE :: 0xFF :: rest => (.utf16 true, rest)
  | 0xFF :: 0xFE :: rest => (.utf16 false, rest)
  | 0xEF :: 0xBB :: 0xBF :: rest => (.utf8, rest)
  | a :: b :: c :: d :: _ =>
    if a = 0 then (if b = 0 then .utf32 true else .utf16 true, data)
    else if b = 0 then (if c = 0 ∧ d = 0 then .utf32 false else .utf16 false, data)
    else (.utf8, data)
  | [a, b] => (if a = 0 then .utf16 true else if b = 0 then .utf16 false else .utf8, data)
  | _ => (.utf8, data)

/-- The number of two bytes. -/
def pairValue (bigEndian : Bool) (a b : Nat) : Nat := if bigEndian then a * 256 + b else b * 256 + a

/-- The character of a code point that is no surrogate. -/
def codePoint? (n : Nat) : Option Char :=
  if h : n.isValidChar then some (Char.ofNatAux n h) else none

/-- The units of two bytes each. -/
def units? (bigEndian : Bool) : List Nat → Option (List Nat)
  | [] => some []
  | [_] => none
  | a :: b :: rest => (units? bigEndian rest).map (pairValue bigEndian a b :: ·)

/-- The text of units of UTF-16. -/
def ofUnits? : List Nat → Option (List Char)
  | [] => some []
  | [u] => (codePoint? u).map ([·])
  | u :: v :: rest =>
    if 0xD800 ≤ u ∧ u < 0xDC00 ∧ 0xDC00 ≤ v ∧ v < 0xE000 then do
      let c ← codePoint? (0x10000 + (u - 0xD800) * 0x400 + (v - 0xDC00))
      return c :: (← ofUnits? rest)
    else do
      let c ← codePoint? u
      return c :: (← ofUnits? (v :: rest))

/-- The text of units of UTF-32, each given as its two halves. -/
def ofHalves? (bigEndian : Bool) : List Nat → Option (List Char)
  | [] => some []
  | [_] => none
  | a :: b :: rest => do
    let c ← codePoint? (if bigEndian then a * 0x10000 + b else b * 0x10000 + a)
    return c :: (← ofHalves? bigEndian rest)

/-- The text of some bytes, if they are one. -/
def decodeAny? (data : List Nat) : Option (List Char) :=
  match Charset.detect data with
  | (.utf8, rest) => (decode rest).toOption
  | (.utf16 bigEndian, rest) => (units? bigEndian rest).bind ofUnits?
  | (.utf32 bigEndian, rest) => (units? bigEndian rest).bind (ofHalves? bigEndian)

end OutlineSearch.Text
