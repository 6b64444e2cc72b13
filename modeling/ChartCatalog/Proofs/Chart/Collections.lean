import ChartCatalog.Distinct
import ChartCatalog.LabelSet
import Mathlib.Data.List.Sort

/-!
# Folders and labels

What the two collections of a chart hold after they are filled from a list. Folders are
kept where they first appear (`distinct_eq_eraseDups`); labels are a set, settled by its
members (`LabelSet.eq_of_contains_iff`), and hold what was put into them
(`LabelSet.contains_insertAll`).
-/

namespace ChartCatalog

/-! ## Lists without repeats -/

section Distinct

variable {α : Type} [DecidableEq α]

/-- What is new in the list follows what was there, each value once. -/
theorem foldl_pushNew_eq (l acc : List α) :
    l.foldl pushNew acc = acc ++ (l.filter (· ∉ acc)).eraseDups := by
  induction l generalizing acc with
  | nil => simp
  | cons a l ih =>
    rw [List.foldl_cons, ih, pushNew]
    by_cases ha : a ∈ acc
    · rw [if_pos ha, List.filter_cons_of_neg (by simpa using ha)]
    · have hrest : l.filter (· ∉ acc ++ [a]) = (l.filter (· ∉ acc)).filter fun b => !b == a := by
        rw [List.filter_filter]
        apply List.filter_congr
        intro b _
        by_cases hb : b = a <;> simp [hb]
      rw [if_neg ha, List.filter_cons_of_pos (by simpa using ha), List.eraseDups_cons, hrest,
        List.append_assoc, List.singleton_append]

/-- Of equal values the first is kept. -/
theorem distinct_eq_eraseDups (l : List α) : distinct l = l.eraseDups := by
  rw [distinct, foldl_pushNew_eq]
  simp

end Distinct

/-! ## Sets of labels -/

namespace LabelSet

variable {labels labels' : LabelSet} {label : String}

theorem contains_empty : empty.contains label = false := rfl

theorem contains_insertAll {more : List String} :
    (labels.insertAll more).contains label = true ↔
      labels.contains label = true ∨ label ∈ more := by
  unfold insertAll
  induction more generalizing labels with
  | nil => simp
  | cons next more ih =>
    rw [List.foldl_cons, ih, contains_insert, List.mem_cons, or_assoc, or_left_comm]

theorem contains_ofList {more : List String} :
    (ofList more).contains label = true ↔ label ∈ more := by
  rw [ofList, contains_insertAll, contains_empty]
  simp

/-- Two sets with the same labels are the same. -/
theorem eq_of_contains_iff (h : ∀ label, labels.contains label = true ↔
    labels'.contains label = true) : labels = labels' := by
  have hlists : labels.toList = labels'.toList := by
    apply List.Pairwise.eq_of_mem_iff labels.ascending labels'.ascending
    intro label
    rw [← List.contains_iff_mem, ← List.contains_iff_mem]
    exact h label
  cases labels
  cases labels'
  cases hlists
  rfl

end LabelSet

end ChartCatalog
