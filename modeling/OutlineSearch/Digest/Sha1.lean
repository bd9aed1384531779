import OutlineSearch.Text.Utf8
import OutlineSearch.Text.Quoted

/-!
# The SHA-1 digest

A message is padded to blocks of sixteen words, and every block is mixed into five words of state
in eighty rounds.
-/

namespace OutlineSearch.Digest

open OutlineSearch.Text

/-- The five words of state. -/
structure Sha1State where
  a : UInt32
  b : UInt32
  c : UInt32
  d : UInt32
  e : UInt32
deriving DecidableEq, Repr

namespace Sha1State

/-- The state before the first block. -/
def initial : Sha1State := ⟨0x67452301, 0xEFCDAB89, 0x98BADCFE, 0x10325476, 0xC3D2E1F0⟩

/-- Two states added word by word. -/
def add (s t : Sha1State) : Sha1State := ⟨s.a + t.a, s.b + t.b, s.c + t.c, s.d + t.d, s.e + t.e⟩

/-- The words of a state. -/
def words (s : Sha1State) : List UInt32 := [s.a, s.b, s.c, s.d, s.e]

end Sha1State

/-- A word turned to the left by some bits, more than none and fewer than all. -/
def rotateLeft (w bits : UInt32) : UInt32 := (w <<< bits) ||| (w >>> (32 - bits))

/-- The function and the constant of a round. -/
def roundMix (round : Nat) (b c d : UInt32) : UInt32 × UInt32 :=
  if round < 20 then ((b &&& c) ||| (~~~b &&& d), 0x5A827999)
  else if round < 40 then (b ^^^ c ^^^ d, 0x6ED9EBA1)
  else if round < 60 then ((b &&& c) ||| (b &&& d) ||| (c &&& d), 0x8F1BBCDC)
  else (b ^^^ c ^^^ d, 0xCA62C1D6)

/-- One round with a word of the schedule. -/
def sha1Round (s : Sha1State) (round : Nat) (w : UInt32) : Sha1State :=
  let (f, k) := roundMix round s.b s.c s.d
  ⟨rotateLeft s.a 5 + f + s.e + k + w, s.a, rotateLeft s.b 30, s.c, s.d⟩

/-- The schedule of a block: its words and sixty-four more, each made of four before it. -/
def schedule (block : List UInt32) : Array UInt32 :=
  (List.range 64).foldl
    (fun ws i =>
      ws.push (rotateLeft (ws.getD (i + 13) 0 ^^^ ws.getD (i + 8) 0 ^^^ ws.getD (i + 2) 0 ^^^
        ws.getD i 0) 1))
    block.toArray

/-- A block mixed into a state. -/
def mixBlock (s : Sha1State) (block : List UInt32) : Sha1State :=
  let ws := schedule block
  s.add ((List.range 80).foldl (fun t i => sha1Round t i (ws.getD i 0)) s)

/-- The bytes of a number, `count` of them, the greatest first. -/
def bigEndian (n : Nat) : (count : Nat) → List UInt8
  | 0 => []
  | count + 1 => UInt8.ofNat (n / Nat.pow 256 count) :: bigEndian n count

/-- A message padded to whole blocks of sixty-four bytes: a one bit, zeros, and its length. -/
def padded (message : List UInt8) : List UInt8 :=
  let zeros := (119 - message.length % 64) % 64
  message ++ 0x80 :: (List.replicate zeros 0 ++ bigEndian (8 * message.length) 8)

/-- The words of some bytes. -/
def toWords : List UInt8 → List UInt32
  | a :: b :: c :: d :: rest =>
    ((a.toUInt32 <<< 24) ||| (b.toUInt32 <<< 16) ||| (c.toUInt32 <<< 8) ||| d.toUInt32) ::
      toWords rest
  | _ => []

/-- Some words cut into blocks of sixteen. -/
def toBlocks : List UInt32 → List (List UInt32)
  | [] => []
  | w :: ws => (w :: ws.take 15) :: toBlocks (ws.drop 15)
termination_by ws => ws.length
decreasing_by simp only [List.length_drop, List.length_cons]; omega

/-- The digest of a message, twenty bytes. -/
def sha1 (message : List UInt8) : List UInt8 :=
  let s := (toBlocks (toWords (padded message))).foldl mixBlock Sha1State.initial
  s.words.flatMap fun w => bigEndian w.toNat 4

/-- Some bytes in hexadecimal. -/
def hexText (data : List UInt8) : List Char := data.flatMap fun b => hex 2 b.toNat

end OutlineSearch.Digest
