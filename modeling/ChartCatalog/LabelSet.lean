/-!
# Label sets

The labels of a song are a set of strings. `LabelSet` keeps them in ascending
order without repeats, so two sets with the same labels are equal and a set has
one written form.
-/

namespace ChartCatalog

/-- A finite set of strings, in ascending order. -/
structure LabelSet where
  toList : List String
  ascending : toList.Pairwise (· < ·)
  deriving DecidableEq

namespace LabelSet

/-- The list with `label` at its place, unless it is there already. -/
def insertSorted (label : String) : List String → List String
  | [] => [label]
  | next :: rest =>
    if label < next then label :: next :: rest
    else if label = next then next :: rest
    else next :: insertSorted label rest

theorem mem_insertSorted {label x : String} {labels : List String} :
    x ∈ insertSorted label labels ↔ x = label ∨ x ∈ labels := by
  induction labels with
  | nil => simp [insertSorted]
  | cons next rest ih =>
    unfold insertSorted
    split
    · simp
    · split
      next h => subst h; simp
      next => simp only [List.mem_cons, ih]; exact or_left_comm

theorem insertSorted_ascending {label : String} {labels : List String}
    (h : labels.Pairwise (· < ·)) : (insertSorted label labels).Pairwise (· < ·) := by
  induction labels with
  | nil => simp [insertSorted]
  | cons next rest ih =>
    obtain ⟨hnext, hrest⟩ := List.pairwise_cons.mp h
    unfold insertSorted
    split
    next hlt =>
      -- the label comes first
      refine List.pairwise_cons.mpr ⟨fun x hx => ?_, h⟩
      rcases List.mem_cons.mp hx with rfl | hx
      · exact hlt
      · exact String.lt_trans hlt (hnext x hx)
    next hge =>
      split
      next =>
        -- the label is there already
        exact h
      next hne =>
        -- the label belongs further on
        refine List.pairwise_cons.mpr ⟨fun x hx => ?_, ih hrest⟩
        rcases mem_insertSorted.mp hx with rfl | hx
        · exact Decidable.byContradiction fun hlt =>
            hne (String.le_antisymm (String.not_lt.mp hlt) (String.not_lt.mp hge))
        · exact hnext x hx

/-- No labels. -/
def empty : LabelSet := ⟨[], List.Pairwise.nil⟩

/-- The set with one more label. -/
def insert (labels : LabelSet) (label : String) : LabelSet :=
  ⟨insertSorted label labels.toList, insertSorted_ascending labels.ascending⟩

/-- The set with all the labels of a list. -/
def insertAll (labels : LabelSet) (more : List String) : LabelSet :=
  more.foldl insert labels

/-- The set of the labels of a list. -/
def ofList (labels : List String) : LabelSet := empty.insertAll labels

/-- Is the label in the set? -/
def contains (labels : LabelSet) (label : String) : Bool := labels.toList.contains label

theorem contains_insert {labels : LabelSet} {label x : String} :
    (labels.insert label).contains x = true ↔ x = label ∨ labels.contains x = true := by
  simp [contains, insert, mem_insertSorted]

end LabelSet

end ChartCatalog
