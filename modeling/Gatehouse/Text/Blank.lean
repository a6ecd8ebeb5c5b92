/-!
Blanks: the characters that Unicode calls white space, and trimming by them.

A text counts as blank when every character of it is, so `trimChars` empties exactly the blank texts.
-/

namespace Gatehouse.Text

/-- The code point ranges of the property White_Space, in ascending order. -/
def blankRanges : List (UInt32 × UInt32) :=
  [(0x09, 0x0d), (0x20, 0x20), (0x85, 0x85), (0xa0, 0xa0), (0x1680, 0x1680),
   (0x2000, 0x200a), (0x2028, 0x2029), (0x202f, 0x202f), (0x205f, 0x205f), (0x3000, 0x3000)]

/-- Whether a character is white space. -/
def isBlank (c : Char) : Bool :=
  blankRanges.any fun r => r.1 ≤ c.val && c.val ≤ r.2

/-- The characters up to the last one that `p` refuses. -/
def dropEndWhile (p : Char → Bool) (cs : List Char) : List Char :=
  (cs.reverse.dropWhile p).reverse

/-- The characters between the first and the last one that is not blank. -/
def trimChars (cs : List Char) : List Char :=
  dropEndWhile isBlank (cs.dropWhile isBlank)

/-- Whether nothing but blanks is in a text. -/
def isBlankText (s : String) : Bool :=
  s.toList.all isBlank

/-- A text with the ASCII capitals made small. -/
def lowerAscii (s : String) : String :=
  String.ofList (s.toList.map Char.toLower)

end Gatehouse.Text
