/-!
# Searching and cutting texts

Substring tests and cuts at a separator, read from left to right without overlap.
-/

namespace OutlineSearch.Text

/-- The rest of a text behind a given start. -/
def dropPrefix? : List Char → List Char → Option (List Char)
  | [], s => some s
  | _ :: _, [] => none
  | a :: p, b :: s => if a == b then dropPrefix? p s else none

/-- Whether a text starts with another. -/
def startsWith (s start : List Char) : Bool := (dropPrefix? start s).isSome

/-- Whether a text occurs in another. -/
def occursIn (needle : List Char) : List Char → Bool
  | [] => needle.isEmpty
  | c :: rest => startsWith (c :: rest) needle || occursIn needle rest

/-- Whether a string occurs in another. -/
def contains (haystack needle : String) : Bool := occursIn needle.toList haystack.toList

/-- The text in front of the first occurrence of a separator and the text behind it. -/
def cutAt? (separator : List Char) : List Char → Option (List Char × List Char)
  | [] => if separator.isEmpty then some ([], []) else none
  | c :: rest =>
    match dropPrefix? separator (c :: rest) with
    | some behind => some ([], behind)
    | none => (cutAt? separator rest).map fun (front, behind) => (c :: front, behind)

/-- The parts between the occurrences of a separator; `skip` characters of an occurrence are still
to be passed over, and `current` is the reversed start of the first part. -/
def splitFrom (separator : List Char) (skip : Nat) (current : List Char) :
    List Char → List (List Char)
  | [] => [current.reverse]
  | c :: rest =>
    if 0 < skip then splitFrom separator (skip - 1) current rest
    else if startsWith (c :: rest) separator then
      current.reverse :: splitFrom separator (separator.length - 1) [] rest
    else splitFrom separator 0 (c :: current) rest

/-- The parts of a text between the occurrences of a separator that is not empty. -/
def split (separator s : List Char) : List (List Char) := splitFrom separator 0 [] s

/-- The text with each occurrence of a separator replaced. -/
def replace (separator new s : List Char) : List Char := List.intercalate new (split separator s)

end OutlineSearch.Text
