import ChartCatalog.Text.CharSet

/-!
# Blanks

A blank is a character of the Unicode property `White_Space`. Blanks separate
the tokens of a clause and are cut off both ends of ids, codes and clauses.
The zero width space and the byte order mark are not blanks.
-/

namespace ChartCatalog.Text

/-- The 25 characters with the property `White_Space`. -/
def blanks : CharSet := [
  (0x0009, 0x000D), (0x0020, 0x0020), (0x0085, 0x0085), (0x00A0, 0x00A0), (0x1680, 0x1680),
  (0x2000, 0x200A), (0x2028, 0x2029), (0x202F, 0x202F), (0x205F, 0x205F), (0x3000, 0x3000)]

/-- Is `c` a blank? -/
def isBlank (c : Char) : Bool := blanks.contains c

/-- Every character of the text is a blank; in particular the empty text is. -/
def isBlankText (s : List Char) : Bool := s.all isBlank

/-- The text without its leading blanks. -/
def trimLeft (s : List Char) : List Char := s.dropWhile isBlank

/-- The text without its trailing blanks. -/
def trimRight (s : List Char) : List Char := (s.reverse.dropWhile isBlank).reverse

/-- The text without the blanks at either end. -/
def trim (s : List Char) : List Char := trimRight (trimLeft s)

/-- `trim` on strings. -/
def trimString (s : String) : String := String.ofList (trim s.toList)

end ChartCatalog.Text
