/-!
# Blanks, trimming and lines

A blank is a character that separates words: the spaces and line ends of Unicode together with the
four ASCII separators. Trimming, cutting into words and cutting into lines are functions on lists
of characters.
-/

namespace OutlineSearch.Text

/-- Whether a character separates words. -/
def isBlank (c : Char) : Bool :=
  let n := c.toNat
  (9 ≤ n && n ≤ 13) || (0x1C ≤ n && n ≤ 0x20) || n == 0x85 || n == 0xA0 || n == 0x1680 ||
    (0x2000 ≤ n && n ≤ 0x200A) || n == 0x2028 || n == 0x2029 || n == 0x202F || n == 0x205F ||
    n == 0x3000

/-- The text without its leading blanks. -/
def trimStart (s : List Char) : List Char := s.dropWhile isBlank

/-- The text without the longest run of characters of a class at its end. -/
def dropEndWhile (p : Char → Bool) (s : List Char) : List Char :=
  (s.reverse.dropWhile p).reverse

/-- The text without its trailing blanks. -/
def trimEnd (s : List Char) : List Char := dropEndWhile isBlank s

/-- The text without its blanks at both ends. -/
def trim (s : List Char) : List Char := trimEnd (trimStart s)

/-- The text without the characters of a class at both ends. -/
def trimOf (p : Char → Bool) (s : List Char) : List Char := dropEndWhile p (s.dropWhile p)

/-- Whether the text holds nothing but blanks. -/
def isAllBlank (s : List Char) : Bool := s.all isBlank

/-- The string without its blanks at both ends. -/
def trimmed (s : String) : String := String.ofList (trim s.toList)

/-- Whether the string holds nothing but blanks. -/
def isBlankString (s : String) : Bool := isAllBlank s.toList

/-- Whether a character ends a line. -/
def isLineEnd (c : Char) : Bool :=
  let n := c.toNat
  (10 ≤ n && n ≤ 13) || (0x1C ≤ n && n ≤ 0x1E) || n == 0x85 || n == 0x2028 || n == 0x2029

/-- The lines of a text, `current` being the reversed start of the first one. A carriage return and
a line feed after it end one line; no empty line follows the last line end. -/
def linesFrom (current : List Char) : List Char → List (List Char)
  | [] => if current.isEmpty then [] else [current.reverse]
  | '\r' :: '\n' :: rest => current.reverse :: linesFrom [] rest
  | c :: rest =>
    if isLineEnd c then current.reverse :: linesFrom [] rest else linesFrom (c :: current) rest

/-- The lines of a text without their line ends. -/
def lines (s : List Char) : List (List Char) := linesFrom [] s

/-- The text with every carriage return, alone or before a line feed, made a line feed. -/
def unifyLineEnds : List Char → List Char
  | [] => []
  | '\r' :: '\n' :: rest => '\n' :: unifyLineEnds rest
  | c :: rest => (if c == '\r' then '\n' else c) :: unifyLineEnds rest

/-- The words of a text, `current` being the reversed start of the first one. -/
def wordsFrom (current : List Char) : List Char → List (List Char)
  | [] => if current.isEmpty then [] else [current.reverse]
  | c :: rest =>
    if isBlank c then
      if current.isEmpty then wordsFrom [] rest else current.reverse :: wordsFrom [] rest
    else wordsFrom (c :: current) rest

/-- The maximal runs of characters that are not blank. -/
def words (s : List Char) : List (List Char) := wordsFrom [] s

/-- The text with each maximal run of blanks made one space. -/
def collapseBlanks : List Char → List Char
  | [] => []
  | c :: rest =>
    if isBlank c then
      match collapseBlanks rest with
      | ' ' :: more => ' ' :: more
      | more => ' ' :: more
    else c :: collapseBlanks rest

/-- The width of a text from a column on, a tab reaching to the next multiple of `size` and a line
end starting over. -/
def widthFrom (size : Nat) (column width : Nat) : List Char → Nat
  | [] => width
  | '\t' :: rest =>
    let step := size - column % size
    widthFrom size (column + step) (width + step) rest
  | c :: rest =>
    if c == '\n' || c == '\r' then widthFrom size 0 (width + 1) rest
    else widthFrom size (column + 1) (width + 1) rest

/-- The number of columns of a text whose tabs stop every `size` columns. -/
def width (size : Nat) (s : List Char) : Nat := widthFrom size 0 0 s

end OutlineSearch.Text
