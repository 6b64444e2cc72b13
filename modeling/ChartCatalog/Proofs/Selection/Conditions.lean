import ChartCatalog.Proofs.Condition.RoundTrip
import ChartCatalog.Selection.Basic

/-!
# The conditions of a selection

A selection gives rise to well-formed conditions only (`wellFormed_of_mem`), and
always to some (`conditions_ne_nil`): the facts that are left out by default are
always decided. The only conditions among them that can be split are those of
the rating bounds (`exists_isSplit_iff`).
-/

namespace ChartCatalog.Selection

open Number

variable {selection : Selection} {c : Condition}

theorem wellFormed_of_mem_levelConditions (h : c ∈ selection.levelConditions) :
    c.WellFormed ∧ ¬ c.IsSplit := by
  unfold levelConditions at h
  split at h
  · rw [List.mem_singleton.mp h]
    exact ⟨trivial, id⟩
  · rename_i hrange
    rw [not_or, not_or] at hrange
    obtain ⟨hmax, hmin, -⟩ := hrange
    rcases List.mem_append.mp h with h | h
    · split at h
      · rename_i hlow
        rw [List.mem_singleton.mp h]
        exact ⟨⟨UInt8.le_of_lt hlow, UInt8.not_lt.mp hmin⟩, id⟩
      · exact absurd h List.not_mem_nil
    · split at h
      · rename_i hhigh
        rw [List.mem_singleton.mp h]
        exact ⟨⟨UInt8.not_lt.mp hmax, UInt8.le_of_lt hhigh⟩, id⟩
      · exact absurd h List.not_mem_nil

theorem mem_ratingCondition_iff {comparison : Comparison} {bound : Option Binary64} :
    c ∈ ratingCondition comparison bound ↔
      ∃ value, bound = some value ∧ value.isFinite = true ∧ c = .rating comparison value := by
  cases bound with
  | none => simp [ratingCondition]
  | some value =>
    unfold ratingCondition
    cases hfinite : value.isFinite with
    | false => simp [hfinite]
    | true => simp [hfinite]

theorem wellFormed_of_mem_sranLevelCondition {comparison : Comparison} {bound : Option SranLevel}
    (h : c ∈ sranLevelCondition comparison bound) : c.WellFormed ∧ ¬ c.IsSplit := by
  cases bound with
  | none => exact absurd h List.not_mem_nil
  | some value =>
    rw [List.mem_singleton.mp h]
    exact ⟨trivial, id⟩

theorem wellFormed_of_mem_difficultyConditions (h : c ∈ selection.difficultyConditions) :
    c.WellFormed ∧ ¬ c.IsSplit := by
  unfold difficultyConditions at h
  split at h
  · rw [List.mem_singleton.mp h]
    exact ⟨trivial, id⟩
  · rename_i hne
    split at h
    · rw [List.mem_singleton.mp h]
      have hall : Difficulty.all.Nodup := by decide
      exact ⟨⟨hne, hall.filter _⟩, id⟩
    · exact absurd h List.not_mem_nil

theorem wellFormed_of_mem_inclusionCondition {flag : Flag} {inclusion : Inclusion}
    (h : c ∈ inclusionCondition flag inclusion) : c.WellFormed ∧ ¬ c.IsSplit := by
  unfold inclusionCondition at h
  split at h
  · exact absurd h List.not_mem_nil
  · rw [List.mem_singleton.mp h]
    exact ⟨trivial, id⟩

theorem mem_inclusionCondition {flag : Flag} (h : flag ∈ Flag.excludedByDefault)
    (inclusion : Inclusion) :
    Condition.flag ⟨flag, inclusion.polarity⟩ ∈ inclusionCondition flag inclusion := by
  rw [inclusionCondition, if_neg fun hany => hany.2 h]
  exact List.mem_singleton_self _

/-- Every condition of a selection is that of a rating bound, or is well formed
and not split. -/
theorem mem_toQuery_cases (h : c ∈ selection.toQuery.conditions) :
    (∃ comparison value, (selection.ratingMin = some value ∨ selection.ratingMax = some value) ∧
      value.isFinite = true ∧ c = .rating comparison value) ∨ c.WellFormed ∧ ¬ c.IsSplit := by
  simp only [toQuery, List.mem_append, List.mem_flatMap] at h
  rcases h with (((((h | h) | h) | h) | h) | h) | ⟨pair, -, h⟩
  · exact .inr (wellFormed_of_mem_levelConditions h)
  · obtain ⟨value, hbound, hfinite, rfl⟩ := mem_ratingCondition_iff.mp h
    exact .inl ⟨_, value, .inl hbound, hfinite, rfl⟩
  · obtain ⟨value, hbound, hfinite, rfl⟩ := mem_ratingCondition_iff.mp h
    exact .inl ⟨_, value, .inr hbound, hfinite, rfl⟩
  · exact .inr (wellFormed_of_mem_sranLevelCondition h)
  · exact .inr (wellFormed_of_mem_sranLevelCondition h)
  · exact .inr (wellFormed_of_mem_difficultyConditions h)
  · exact .inr (wellFormed_of_mem_inclusionCondition h)

theorem wellFormed_of_mem (h : c ∈ selection.toQuery.conditions) : c.WellFormed := by
  rcases mem_toQuery_cases h with ⟨comparison, value, -, hfinite, rfl⟩ | h
  · exact hfinite
  · exact h.1

/-- The conditions about what is left out by default are always there. -/
theorem conditions_ne_nil (selection : Selection) : selection.toQuery.conditions ≠ [] := by
  have hmem : Condition.flag ⟨.omnimix, selection.omnimix.polarity⟩ ∈
      selection.toQuery.conditions :=
    List.mem_append_right _ (List.mem_flatMap.mpr ⟨(.omnimix, selection.omnimix),
      by simp [inclusions], mem_inclusionCondition (by decide) _⟩)
  exact List.ne_nil_of_mem hmem

/-! ## Split bounds -/

/-- One of the rating bounds is split. -/
def HasSplitBound (selection : Selection) : Prop :=
  ∃ value, (selection.ratingMin = some value ∨ selection.ratingMax = some value) ∧
    Rating.IsSplit value

/-- What is not finite is not written in digits. -/
theorem isFinite_of_isSplit {value : Binary64} (h : Rating.IsSplit value) :
    value.isFinite = true := by
  cases value with
  | finite => rfl
  | infinite negative =>
    have hdigits := h.1
    cases negative <;> exact absurd hdigits (by decide)
  | nan => exact absurd h.1 (by decide)

theorem exists_isSplit_iff :
    (∃ c ∈ selection.toQuery.conditions, c.IsSplit) ↔ selection.HasSplitBound := by
  constructor
  · rintro ⟨c, hc, hsplit⟩
    rcases mem_toQuery_cases hc with ⟨comparison, value, hbound, -, rfl⟩ | h
    · exact ⟨value, hbound, hsplit⟩
    · exact absurd hsplit h.2
  · rintro ⟨value, hbound, hsplit⟩
    have hmem : ∀ comparison bound, bound = some value →
        Condition.rating comparison value ∈ ratingCondition comparison bound := by
      intro comparison bound hbound
      exact mem_ratingCondition_iff.mpr ⟨value, hbound, isFinite_of_isSplit hsplit, rfl⟩
    rcases hbound with hbound | hbound
    · refine ⟨.rating .ge value, ?_, hsplit⟩
      have := hmem .ge _ hbound
      simp [toQuery, this]
    · refine ⟨.rating .le value, ?_, hsplit⟩
      have := hmem .le _ hbound
      simp [toQuery, this]

end ChartCatalog.Selection
