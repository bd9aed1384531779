/-!
# Base 64

Three bytes are written as four characters; an incomplete group is filled up with equals signs. The
reader passes over characters that are not in the alphabet.
-/

namespace OutlineSearch.Text

/-- The characters of the six-bit digits. -/
def base64Alphabet : List Char :=
  "ABCDEFGHIJKLMNOPQRSTUVWXYZabcdefghijklmnopqrstuvwxyz0123456789+/".toList

/-- The character of a six-bit digit. -/
def base64Char (n : Nat) : Char := base64Alphabet.getD n '='

/-- The value of a character of the alphabet. -/
def base64Value? (c : Char) : Option Nat := base64Alphabet.findIdx? (· == c)

/-- Bytes as text. -/
def encodeBase64 : List UInt8 → List Char
  | a :: b :: c :: rest =>
    let n := a.toNat * 65536 + b.toNat * 256 + c.toNat
    base64Char (n / 262144) :: base64Char (n / 4096 % 64) :: base64Char (n / 64 % 64) ::
      base64Char (n % 64) :: encodeBase64 rest
  | [a, b] =>
    let n := a.toNat * 256 + b.toNat
    [base64Char (n / 1024), base64Char (n / 16 % 64), base64Char (n * 4 % 64), '=']
  | [a] => [base64Char (a.toNat / 4), base64Char (a.toNat * 16 % 64), '=', '=']
  | [] => []

/-- The bytes of six-bit digits. -/
def bytesOfDigits : List Nat → List UInt8
  | a :: b :: c :: d :: rest =>
    let n := a * 262144 + b * 4096 + c * 64 + d
    UInt8.ofNat (n / 65536) :: UInt8.ofNat (n / 256 % 256) :: UInt8.ofNat (n % 256) ::
      bytesOfDigits rest
  | [a, b, c] =>
    let n := a * 4096 + b * 64 + c
    [UInt8.ofNat (n / 1024), UInt8.ofNat (n / 4 % 256)]
  | [a, b] => [UInt8.ofNat ((a * 64 + b) / 16)]
  | _ => []

/-- The digits up to the first filling character. -/
def base64Digits (s : List Char) : List Nat :=
  (s.takeWhile (· != '=')).filterMap base64Value?

/-- The bytes that a text spells, when its last group is whole. -/
def decodeBase64? (s : List Char) : Option (List UInt8) :=
  let digits := base64Digits s
  let fill := (s.dropWhile (· != '=')).countP (· == '=')
  let short := digits.length % 4
  if short = 0 ∨ (short = 3 ∧ 1 ≤ fill) ∨ (short = 2 ∧ 2 ≤ fill) then some (bytesOfDigits digits)
  else none

end OutlineSearch.Text
