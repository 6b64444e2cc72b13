/-!
# Lists without repeats

Folders of a chart and difficulties of a clause are kept in the order in which
they are first given, each once. `pushNew` puts one value at the end of such a
list, `distinct` keeps the first of every value of a list.
-/

namespace ChartCatalog

variable {α : Type} [DecidableEq α]

/-- The list with `a` at the end, unless it holds `a` already. -/
def pushNew (l : List α) (a : α) : List α := if a ∈ l then l else l ++ [a]

/-- The values of a list in order of first appearance, each once. -/
def distinct (l : List α) : List α := l.foldl pushNew []

theorem mem_pushNew {l : List α} {a x : α} : x ∈ pushNew l a ↔ x ∈ l ∨ x = a := by
  unfold pushNew
  split
  next h => exact ⟨Or.inl, fun hx => hx.elim id fun e => e ▸ h⟩
  next => simp

theorem nodup_pushNew {l : List α} {a : α} (h : l.Nodup) : (pushNew l a).Nodup := by
  unfold pushNew
  split
  next => exact h
  next ha =>
    refine List.nodup_append.mpr ⟨h, by simp, fun x hx y hy e => ha ?_⟩
    rw [List.mem_singleton.mp hy] at e
    exact e ▸ hx

theorem mem_foldl_pushNew {l acc : List α} {x : α} :
    x ∈ l.foldl pushNew acc ↔ x ∈ acc ∨ x ∈ l := by
  induction l generalizing acc with
  | nil => simp
  | cons a l ih => simp only [List.foldl_cons, ih, mem_pushNew, List.mem_cons, or_assoc]

theorem nodup_foldl_pushNew {l acc : List α} (h : acc.Nodup) : (l.foldl pushNew acc).Nodup := by
  induction l generalizing acc with
  | nil => exact h
  | cons a l ih => exact ih (nodup_pushNew h)

/-- Nothing is lost and nothing is added. -/
theorem mem_distinct {l : List α} {x : α} : x ∈ distinct l ↔ x ∈ l := by
  simp [distinct, mem_foldl_pushNew]

theorem nodup_distinct (l : List α) : (distinct l).Nodup := nodup_foldl_pushNew List.nodup_nil

/-- A list without repeats is not changed. -/
theorem distinct_of_nodup {l : List α} (h : l.Nodup) : distinct l = l := by
  have key : ∀ (l acc : List α), (acc ++ l).Nodup → l.foldl pushNew acc = acc ++ l := by
    intro l
    induction l with
    | nil => intro acc _; simp
    | cons a l ih =>
      intro acc hnd
      have ha : a ∉ acc := fun hmem =>
        (List.nodup_append.mp hnd).2.2 a hmem a List.mem_cons_self rfl
      rw [List.foldl_cons, pushNew, if_neg ha, ih _ (by simpa using hnd)]
      simp
  simpa [distinct] using key l [] (by simpa using h)

end ChartCatalog
