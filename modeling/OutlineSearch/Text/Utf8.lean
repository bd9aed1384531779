/-!
# Decoding UTF-8

Bytes are decoded character by character. Where no character can be read, the longest start of one
that is there is reported with its reason; a lenient reader puts a replacement character for it.
-/

namespace OutlineSearch.Text

/-- Why no character can be read. -/
inductive Utf8Reason where
  | start
  | continuation
  | endOfData
deriving DecidableEq, Repr

/-- The reason in words. -/
def Utf8Reason.message : Utf8Reason → String
  | start => "invalid start byte"
  | continuation => "invalid continuation byte"
  | endOfData => "unexpected end of data"

/-- The character at the start of some bytes with its length, or the length of the bytes that are
no character and the reason. -/
inductive Utf8Step where
  | char (c : Char) (length : Nat)
  | bad (reason : Utf8Reason) (length : Nat)

/-- Whether a byte continues a character. -/
def isContinuation (b : Nat) : Bool := 0x80 ≤ b && b ≤ 0xBF

/-- The range of the second byte of a character by its first byte. -/
def secondRange (first : Nat) : Nat × Nat :=
  if first = 0xE0 then (0xA0, 0xBF)
  else if first = 0xED then (0x80, 0x9F)
  else if first = 0xF0 then (0x90, 0xBF)
  else if first = 0xF4 then (0x80, 0x8F)
  else (0x80, 0xBF)

/-- The number of bytes of a character by its first byte. -/
def utf8Length? (first : Nat) : Option Nat :=
  if first < 0x80 then some 1
  else if first < 0xC2 then none
  else if first < 0xE0 then some 2
  else if first < 0xF0 then some 3
  else if first < 0xF5 then some 4
  else none

/-- Reads the continuation bytes of a character whose first bytes have the given value. -/
def utf8Tail (value seen : Nat) : (missing : Nat) → List Nat → Utf8Step
  | 0, _ => .char (Char.ofNat value) seen
  | _ + 1, [] => .bad .endOfData seen
  | missing + 1, b :: rest =>
    if isContinuation b then utf8Tail (value * 64 + (b - 0x80)) (seen + 1) missing rest
    else .bad .continuation seen

/-- Reads one character. -/
def utf8Step (first : Nat) (rest : List Nat) : Utf8Step :=
  match utf8Length? first with
  | none => .bad .start 1
  | some 1 => .char (Char.ofNat first) 1
  | some n =>
    match rest with
    | [] => .bad .endOfData 1
    | b :: _ =>
      let (low, high) := secondRange first
      if low ≤ b ∧ b ≤ high then
        let lead := if n = 2 then first - 0xC0 else if n = 3 then first - 0xE0 else first - 0xF0
        utf8Tail lead 1 (n - 1) rest
      else .bad .continuation 1

/-- The characters of some bytes; `skip` of them belong to a character already read. -/
def decodeLenientFrom (skip : Nat) : List Nat → List Char
  | [] => []
  | b :: rest =>
    if 0 < skip then decodeLenientFrom (skip - 1) rest
    else
      match utf8Step b rest with
      | .char c n => c :: decodeLenientFrom (n - 1) rest
      | .bad _ n => '\uFFFD' :: decodeLenientFrom (n - 1) rest

/-- The characters of some bytes, with a replacement character where none can be read. -/
def decodeLenient (data : List Nat) : List Char := decodeLenientFrom 0 data

/-- Where and why some bytes are no text. -/
structure Utf8Error where
  position : Nat
  length : Nat
  byte : Nat
  reason : Utf8Reason
deriving Repr

/-- The characters of some bytes from a position on. -/
def decodeFrom (position skip : Nat) : List Nat → Except Utf8Error (List Char)
  | [] => .ok []
  | b :: rest =>
    if 0 < skip then decodeFrom (position + 1) (skip - 1) rest
    else
      match utf8Step b rest with
      | .char c n => (decodeFrom (position + 1) (n - 1) rest).map (c :: ·)
      | .bad reason n => .error ⟨position, n, b, reason⟩

/-- The characters of some bytes. -/
def decode (data : List Nat) : Except Utf8Error (List Char) := decodeFrom 0 0 data

private def hexByte (n : Nat) : String :=
  let digits := Nat.toDigits 16 n
  String.ofList (List.replicate (2 - digits.length) '0' ++ digits)

/-- The place of an error in words, with a reason. -/
def Utf8Error.withReason (e : Utf8Error) (reason : String) : String :=
  if e.length = 1 then
    s!"'utf-8' codec can't decode byte 0x{hexByte e.byte} in position {e.position}: {reason}"
  else
    s!"'utf-8' codec can't decode bytes in position {e.position}-" ++
      s!"{e.position + e.length - 1}: {reason}"

/-- The error in words. -/
def Utf8Error.message (e : Utf8Error) : String := e.withReason e.reason.message

/-- The bytes of a text. -/
def encode (s : String) : List UInt8 := s.toUTF8.toList

end OutlineSearch.Text
