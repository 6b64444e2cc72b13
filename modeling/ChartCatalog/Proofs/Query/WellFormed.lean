import ChartCatalog.Proofs.Catalog.AddedClause
import ChartCatalog.Proofs.Catalog.Exclusions
import ChartCatalog.Proofs.Rating.ReadBack
import ChartCatalog.Proofs.Selection.Conditions

/-!
# Where conditions come from

Conditions come from clauses, from selections and from the exclusions of a query, and all
of them are well formed. Clauses give rise to every well-formed condition
(`Condition.wellFormed_iff_exists_parse`), so that the queries of well-formed conditions
are just the queries of filters. A selection and the effective query of any query with
conditions always have some (`wellFormed_sources`).
-/

namespace ChartCatalog

open Number

/-! ## Clauses and filters -/

/-- A rating that is split is read back with a plus before it. -/
theorem Rating.ratingSpelling_of_isSplit {value : Binary64} (hfinite : value.isFinite = true)
    (hsplit : Rating.IsSplit value) : RatingSpelling ('+' :: value.positionalText) value := by
  have hdigits := hsplit.1
  have hnumeral := numeral_positionalText hfinite
  generalize value.positionalText = s at hdigits hnumeral ⊢
  cases hnumeral with
  | unsigned hdecimals => exact Rating.ratingSpelling_plus hdecimals hfinite
  | plus => exact absurd (hdigits '+' List.mem_cons_self) (by decide)
  | minus => exact absurd (hdigits '-' List.mem_cons_self) (by decide)

theorem Condition.exists_parse_of_wellFormed {c : Condition} (h : c.WellFormed) :
    ∃ clause, parse clause = .ok c := by
  by_cases hsplit : c.IsSplit
  · cases c with
    | rating comparison value =>
      have hspelling := Rating.ratingSpelling_of_isSplit h hsplit
      rw [← String.toList_ofList (l := '+' :: value.positionalText)] at hspelling
      exact ⟨_, parse_ratingSpelling comparison hspelling⟩
    | _ => exact hsplit.elim
  · exact ⟨c.text, parse_text_of_not_isSplit h hsplit⟩

/-- The well-formed conditions are the conditions of clauses. -/
theorem Condition.wellFormed_iff_exists_parse {c : Condition} :
    c.WellFormed ↔ ∃ clause, parse clause = .ok c := by
  constructor
  · exact exists_parse_of_wellFormed
  · rintro ⟨clause, h⟩
    exact wellFormed_of_parse h

namespace Query

/-- Clause by clause, a filter for any well-formed conditions is put together. -/
theorem exists_parse_of_wellFormed {conditions : List Condition}
    (h : ∀ c ∈ conditions, c.WellFormed) : ∃ filter, parse filter = .ok ⟨conditions⟩ := by
  induction conditions using List.reverseRecOn with
  | nil => exact ⟨"", by decide⟩
  | append_singleton conditions c ih =>
    simp only [List.forall_mem_append, List.forall_mem_singleton] at h
    obtain ⟨filter, hfilter⟩ := ih h.1
    obtain ⟨clause, hclause⟩ := Condition.exists_parse_of_wellFormed h.2
    exact ⟨_, parse_addedClause hfilter hclause⟩

/-! ## Exclusions -/

theorem conditions_effective_eq_nil_iff {query : Query} :
    query.effective.conditions = [] ↔ query.conditions = [] := by
  constructor
  · intro h
    exact List.eq_nil_of_prefix_nil (h ▸ prefix_effective query)
  · intro h
    rw [effective_of_conditions_eq_nil h, h]

/-- What is appended to a query neither adds to what is ill formed nor takes from it. -/
theorem wellFormed_effective_iff {query : Query} :
    (∀ c ∈ query.effective.conditions, c.WellFormed) ↔ ∀ c ∈ query.conditions, c.WellFormed := by
  constructor
  · intro h c hc
    exact h c ((prefix_effective query).subset hc)
  · intro h c hc
    rcases mem_effective_cases hc with hc | ⟨flag, rfl⟩
    · exact h c hc
    · trivial

end Query

/-- The conditions of clauses are the well-formed ones, and the queries of filters those
of well-formed conditions. Every selection has conditions, and only well-formed ones.
Exclusions keep a query well formed, and only the query without conditions stays without
any. -/
theorem wellFormed_sources :
    (∀ c : Condition, c.WellFormed ↔ ∃ clause, Condition.parse clause = .ok c) ∧
    (∀ query : Query, (∀ c ∈ query.conditions, c.WellFormed) ↔
      ∃ filter, Query.parse filter = .ok query) ∧
    (∀ selection : Selection, selection.toQuery.conditions ≠ [] ∧
      ∀ c ∈ selection.toQuery.conditions, c.WellFormed) ∧
    ∀ query : Query,
      (query.effective.conditions = [] ↔ query.conditions = []) ∧
      ((∀ c ∈ query.effective.conditions, c.WellFormed) ↔
        ∀ c ∈ query.conditions, c.WellFormed) := by
  refine ⟨fun c => Condition.wellFormed_iff_exists_parse, fun query => ⟨?_, ?_⟩,
    fun selection => ⟨selection.conditions_ne_nil, fun c => Selection.wellFormed_of_mem⟩,
    fun query => ⟨Query.conditions_effective_eq_nil_iff, Query.wellFormed_effective_iff⟩⟩
  · exact Query.exists_parse_of_wellFormed
  · rintro ⟨filter, h⟩
    exact Query.wellFormed_of_parse h

/-- Bounds that no chart meets: levels out of range and inverted, and a rating that is
no number. -/
def absurdSelection : Selection :=
  { levelMin := 200, levelMax := 0, ratingMin := some .nan, ratingMax := some hundred,
    includeEasy := false }

/-- The rating that is split has a clause, the one of the selection is well formed, and
it is so in the effective query. -/
theorem wellFormed_sources_absurd :
    (Condition.rating .le hundred).WellFormed ∧
      (∃ clause, Condition.parse clause = .ok (.rating .le hundred)) ∧
      Condition.rating .le hundred ∈ absurdSelection.toQuery.conditions ∧
      Condition.rating .le hundred ∈ absurdSelection.toQuery.effective.conditions ∧
      ∃ filter, Query.parse filter = .ok absurdSelection.toQuery.effective := by
  obtain ⟨hclauses, hfilters, hselections, heffective⟩ := wellFormed_sources
  have hmem : Condition.rating .le hundred ∈ absurdSelection.toQuery.conditions := by
    decide +kernel
  obtain ⟨-, hwellFormed⟩ := hselections absurdSelection
  have hbound := hwellFormed _ hmem
  refine ⟨hbound, (hclauses _).mp hbound, hmem, (Query.prefix_effective _).subset hmem, ?_⟩
  exact (hfilters _).mp ((heffective _).2.mpr hwellFormed)

end ChartCatalog
