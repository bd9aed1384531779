import OutlineSearch.Digest.Sha1

/-!
# Identities made from names

The identity of an object that has none of its own is made from the names that lead to it, so that
it stays the same from one reading to the next.
-/

namespace OutlineSearch.Digest

/-- The namespace of the identities made here. -/
def identityNamespace : List UInt8 :=
  [0x22, 0x03, 0xFE, 0x01, 0x6E, 0x62, 0x5B, 0x9F, 0x8D, 0x99, 0x98, 0x0D, 0xA3, 0xCA, 0x05, 0x8B]

/-- The bytes of the identity of a name: a digest with the marks of its version and its variant. -/
def identityBytes (name : String) : List UInt8 :=
  let digest := (sha1 (identityNamespace ++ Text.encode name)).take 16
  let versioned := digest.modify 6 fun b => (b &&& 0x0F) ||| 0x50
  versioned.modify 8 fun b => (b &&& 0x3F) ||| 0x80

/-- Sixteen bytes in hexadecimal in five groups. -/
def groupedHex (data : List UInt8) : String :=
  let part (start length : Nat) : String := String.ofList (hexText ((data.drop start).take length))
  "-".intercalate [part 0 4, part 4 2, part 6 2, part 8 2, part 10 6]

/-- The identity of the object that some names lead to. -/
def stableId (parts : List String) : String := groupedHex (identityBytes ("/".intercalate parts))

end OutlineSearch.Digest
