import ChartCatalog.Proofs.Catalog.Sample
import ChartCatalog.Proofs.Query.RoundTrip
import ChartCatalog.Proofs.Selection.Conditions

/-!
# Selections and their filters

The filter of a selection selects the same charts as the selection itself, in a
listing and in a random sample, unless one of the rating bounds is split. The
text of such a bound is not a clause, so the filter is refused
(`query_filterText`).
-/

namespace ChartCatalog.Catalog

open Text

variable {σ : Type} {catalog : Catalog} {selection : Selection}

theorem isBlankText_filterText (selection : Selection) :
    isBlankText selection.filterText.toList = false :=
  Query.isBlankText_text_of_ne_nil (fun _ => Selection.wellFormed_of_mem)
    selection.conditions_ne_nil

theorem query_filterText_of_not_hasSplitBound (catalog : Catalog)
    (h : ¬ selection.HasSplitBound) :
    catalog.query selection.filterText = .ok (catalog.select selection) := by
  have hparse : Query.parse selection.filterText = .ok selection.toQuery := by
    refine Query.parse_text_of_not_isSplit (fun _ => Selection.wellFormed_of_mem) ?_
    intro c hc hsplit
    exact h (Selection.exists_isSplit_iff.mp ⟨c, hc, hsplit⟩)
  rw [query, hparse]
  rfl

theorem query_filterText_of_hasSplitBound (h : selection.HasSplitBound) :
    ∃ clause tokens, ∀ catalog : Catalog,
      catalog.query selection.filterText = .error (.invalidCondition clause tokens) := by
  obtain ⟨c, -, -, hparse⟩ := Query.parse_text_of_isSplit (fun _ => Selection.wellFormed_of_mem)
    (Selection.exists_isSplit_iff.mpr h)
  refine ⟨c.text, Condition.clauseTokens c.text, fun catalog => ?_⟩
  rw [query, Selection.filterText, hparse]
  rfl

theorem sampleFilter_filterText (chooser : Chooser σ) {count : Nat} (hcount : count ≠ 0)
    (state : σ) : catalog.sampleFilter chooser count selection.filterText state =
      match catalog.query selection.filterText with
      | .error e => (.error e, state)
      | .ok matched =>
        (.ok (chooser.sample matched count state).1, (chooser.sample matched count state).2) := by
  have hsample := catalog.sampleFilter_eq_sampleAnswer chooser (isBlankText_filterText selection)
  refine (congrFun (congrFun hsample count) state).trans ?_
  cases catalog.query selection.filterText with
  | error e => exact chooser.sampleAnswer_error rfl hcount state
  | ok matched => exact chooser.sampleAnswer_ok rfl hcount state

/-- Without a split rating bound the filter of a selection is accepted, lists
what the selection lists, and is sampled in the same way by the same choices;
with one it is refused. -/
theorem query_filterText (catalog : Catalog) (selection : Selection) (chooser : Chooser σ) :
    (¬ selection.HasSplitBound →
      catalog.query selection.filterText = .ok (catalog.select selection) ∧
      ∀ count state, catalog.sampleFilter chooser count selection.filterText state =
        (.ok (catalog.sampleSelection chooser count selection state).1,
          (catalog.sampleSelection chooser count selection state).2)) ∧
    (selection.HasSplitBound → ∃ clause tokens,
      catalog.query selection.filterText = .error (.invalidCondition clause tokens) ∧
      ∀ count state, catalog.sampleFilter chooser count selection.filterText state =
        if count = 0 then (.ok [], state)
        else (.error (.invalidCondition clause tokens), state)) := by
  constructor
  · intro h
    have hquery := query_filterText_of_not_hasSplitBound catalog h
    refine ⟨hquery, fun count state => ?_⟩
    by_cases hcount : count = 0
    · rw [sampleFilter, if_pos (.inl hcount), sampleSelection, if_pos hcount]
    · rw [sampleFilter_filterText chooser hcount, hquery, sampleSelection, if_neg hcount]
  · intro h
    obtain ⟨clause, tokens, hquery⟩ := query_filterText_of_hasSplitBound h
    refine ⟨clause, tokens, hquery catalog, fun count state => ?_⟩
    by_cases hcount : count = 0
    · rw [sampleFilter, if_pos (.inl hcount), if_pos hcount]
    · rw [sampleFilter_filterText chooser hcount, hquery catalog, if_neg hcount]

/-- Charts rated one hundred at most: the bound is split. -/
def atMostHundred : Selection := { ratingMax := some hundred }

theorem hasSplitBound_atMostHundred : atMostHundred.HasSplitBound :=
  ⟨hundred, .inr rfl, by decide +kernel⟩

/-- A catalog of one chart. -/
def oneChart : Catalog :=
  ofFaultless [.draft "1234ex" "1234" .extra 40] (by decide) (by decide)

/-- The default selection is listed by its filter, and the one with the split
bound has a filter that is refused, in the same catalog. -/
theorem query_filterText_oneChart :
    ¬ ({} : Selection).HasSplitBound ∧ atMostHundred.HasSplitBound ∧
      oneChart.query ({} : Selection).filterText = .ok (oneChart.select {}) ∧
      ∃ clause tokens, oneChart.query atMostHundred.filterText =
        .error (.invalidCondition clause tokens) := by
  have hdefault : ¬ ({} : Selection).HasSplitBound := by
    rintro ⟨value, hbound | hbound, -⟩ <;> exact absurd hbound (by simp)
  let chooser : Chooser Unit := ⟨fun last state => (Fin.last last, state)⟩
  have hdefault' := (query_filterText oneChart {} chooser).1 hdefault
  have hsplit := (query_filterText oneChart atMostHundred chooser).2 hasSplitBound_atMostHundred
  obtain ⟨clause, tokens, hquery, -⟩ := hsplit
  exact ⟨hdefault, hasSplitBound_atMostHundred, hdefault'.1, clause, tokens, hquery⟩

/-- Not every selection is listed by its filter. -/
theorem query_filterText_ne_select : ¬ ∀ (catalog : Catalog) (selection : Selection),
    catalog.query selection.filterText = .ok (catalog.select selection) := by
  intro h
  obtain ⟨clause, tokens, hquery⟩ := query_filterText_of_hasSplitBound hasSplitBound_atMostHundred
  have hlisted := h oneChart atMostHundred
  rw [hquery oneChart] at hlisted
  exact absurd hlisted (by simp)

end ChartCatalog.Catalog
