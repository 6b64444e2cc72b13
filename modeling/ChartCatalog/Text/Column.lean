/-!
# Columns

Listings align their columns by filling up with spaces. Widths count characters,
not bytes and not the cells a terminal gives them, and a text that is too long
for its column is kept whole.
-/

namespace ChartCatalog.Text

/-- The text at the left end of a column. -/
def alignLeft (width : Nat) (s : List Char) : List Char :=
  s ++ List.replicate (width - s.length) ' '

/-- The text at the right end of a column. -/
def alignRight (width : Nat) (s : List Char) : List Char :=
  List.replicate (width - s.length) ' ' ++ s

theorem length_alignLeft (width : Nat) (s : List Char) :
    (alignLeft width s).length = max width s.length := by
  simp only [alignLeft, List.length_append, List.length_replicate]; omega

theorem length_alignRight (width : Nat) (s : List Char) :
    (alignRight width s).length = max width s.length := by
  simp only [alignRight, List.length_append, List.length_replicate]; omega

end ChartCatalog.Text
