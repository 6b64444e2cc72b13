/-!
# ASCII letter case

Ids, difficulties, folder tags and inclusions are read without regard to the
case of ASCII letters alone; letters of other scripts are left as they are.
-/

namespace ChartCatalog.Text

/-- The text with small letters for ASCII capitals. -/
def asciiLower (s : List Char) : List Char := s.map Char.toLower

/-- `asciiLower` on strings. -/
def asciiLowerString (s : String) : String := String.ofList (asciiLower s.toList)

/-- Are the texts the same but for the case of ASCII letters? -/
def sameIgnoringCase (s t : List Char) : Bool := asciiLower s == asciiLower t

theorem sameIgnoringCase_refl (s : List Char) : sameIgnoringCase s s = true := by
  simp [sameIgnoringCase]

end ChartCatalog.Text
