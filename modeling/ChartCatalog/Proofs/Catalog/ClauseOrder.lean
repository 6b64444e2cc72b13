import ChartCatalog.Proofs.Catalog.Meaning
import ChartCatalog.Proofs.Condition.Blanks

/-!
# The order of clauses

A query is a conjunction, and whether it opts into a flag is asked of all its
conditions, so its answer depends on the set of its conditions alone
(`search_congr`). Two filters with the same clauses, in any order, repeated or not, with
blanks around them and blank clauses between them, therefore have the same answer. The
order decides only which clause is named when a filter is refused: the first in the
text that is no condition (`query_clauseOrder`).
-/

namespace ChartCatalog

open Text

namespace Query

variable {filter filter' : String} {query query' : Query}

/-! ## Filters with the same clauses -/

/-- The two filters have the same clauses, the blanks around each aside, as sets. -/
def SameClauses (filter filter' : String) : Prop :=
  ∀ clause, clause ∈ (clauses filter).map trimString ↔ clause ∈ (clauses filter').map trimString

/-- A clause is a condition if it is one without the blanks around it. -/
theorem exists_trimmed_iff {c : Condition} :
    (∃ clause ∈ clauses filter, Condition.parse clause = .ok c) ↔
      ∃ clause ∈ (clauses filter).map trimString, Condition.parse clause = .ok c := by
  simp [Condition.parse_trimString_eq_ok_iff]

/-- A filter is refused for its clauses, not for their order. -/
theorem isError_of_sameClauses (h : SameClauses filter filter')
    (herror : ∃ e, parse filter = .error e) : ∃ e, parse filter' = .error e := by
  rw [parse_isError_iff] at herror ⊢
  obtain ⟨clause, hclause, e, he⟩ := herror
  obtain ⟨clause', hclause', htrim⟩ :=
    List.mem_map.mp ((h _).mp (List.mem_map_of_mem hclause))
  refine ⟨clause', hclause', _, Condition.parse_eq_error_iff.mpr ⟨rfl, fun c hc => ?_⟩⟩
  rw [← Condition.parse_trimString_eq_ok_iff, htrim, Condition.parse_trimString_eq_ok_iff] at hc
  rw [hc] at he
  exact absurd he (by simp)

/-- The conditions of filters with the same clauses are the same set. -/
theorem mem_conditions_of_sameClauses (h : SameClauses filter filter')
    (hparse : parse filter = .ok query) (hparse' : parse filter' = .ok query') (c : Condition) :
    c ∈ query.conditions ↔ c ∈ query'.conditions := by
  rw [mem_conditions_iff hparse, mem_conditions_iff hparse', exists_trimmed_iff,
    exists_trimmed_iff]
  exact exists_congr fun clause => and_congr_left fun _ => h clause

/-! ## Queries with the same conditions -/

theorem optsInto_congr (h : ∀ c, c ∈ query.conditions ↔ c ∈ query'.conditions) (flag : Flag) :
    query.optsInto flag = query'.optsInto flag := by
  rw [Bool.eq_iff_iff, optsInto_iff, optsInto_iff]
  simp only [h]

theorem accepts_effective_congr (h : ∀ c, c ∈ query.conditions ↔ c ∈ query'.conditions)
    (chart : Chart) (hardest : HardestOf) :
    query.effective.accepts chart hardest = query'.effective.accepts chart hardest := by
  have hnil : query.conditions = [] ↔ query'.conditions = [] := by
    simp only [List.eq_nil_iff_forall_not_mem, h]
  rw [Bool.eq_iff_iff, accepts_effective_iff, accepts_effective_iff]
  simp only [ne_eq, hnil, h, optsInto_congr h]

/-! ## Filters one after the other -/

/-- A comma stands between the clauses of the one filter and those of the other. -/
theorem clauses_append_separator (filter filter' : String) :
    clauses (filter ++ "," ++ filter') = clauses filter ++ clauses filter' := by
  have hcomma : (filter ++ "," ++ filter').toList =
      filter.toList ++ separator :: filter'.toList := by
    rw [String.toList_append, String.toList_append, List.append_assoc]
    rfl
  unfold clauses
  rw [hcomma, splitOn, splitWhere_append _ _ _ (by simp), List.filter_append, List.map_append]

theorem parse_append_separator_eq_ok (h : parse filter = .ok query)
    (h' : parse filter' = .ok query') :
    parse (filter ++ "," ++ filter') = .ok ⟨query.conditions ++ query'.conditions⟩ := by
  rw [parse_eq_ok_iff] at h h' ⊢
  rw [clauses_append_separator, List.map_append, h, h', List.map_append]

/-- The error is that of the first clause in the text that is no condition. -/
theorem parse_append_separator_eq_error
    (h : ∃ e, parse filter = .error e ∨ parse filter' = .error e) :
    ∃ before clause after, clauses filter ++ clauses filter' = before ++ clause :: after ∧
      (∀ x ∈ before, ∃ c, Condition.parse x = .ok c) ∧
      (∀ c, Condition.parse clause ≠ .ok c) ∧
      parse (filter ++ "," ++ filter') =
        .error (.invalidCondition (trimString clause) (Condition.clauseTokens clause)) := by
  have herror : ∃ e, parse (filter ++ "," ++ filter') = .error e := by
    rw [parse_isError_iff, clauses_append_separator]
    obtain ⟨e, h | h⟩ := h
    · obtain ⟨clause, hclause, he⟩ := parse_isError_iff.mp ⟨e, h⟩
      exact ⟨clause, List.mem_append_left _ hclause, he⟩
    · obtain ⟨clause, hclause, he⟩ := parse_isError_iff.mp ⟨e, h⟩
      exact ⟨clause, List.mem_append_right _ hclause, he⟩
  obtain ⟨e, he⟩ := herror
  obtain ⟨before, clause, after, hclauses, hbefore, hclause⟩ := parse_eq_error_iff.mp he
  obtain ⟨rfl, hnone⟩ := Condition.parse_eq_error_iff.mp hclause
  rw [clauses_append_separator] at hclauses
  exact ⟨before, clause, after, hclauses, hbefore, hnone, he⟩

/-- A filter that is refused is refused for a clause of it. -/
theorem exists_invalidCondition_of_parse {e : CatalogError} (h : parse filter = .error e) :
    ∃ clause tokens, e = .invalidCondition clause tokens := by
  obtain ⟨before, clause, after, -, -, hclause⟩ := parse_eq_error_iff.mp h
  exact ⟨_, _, (Condition.parse_eq_error_iff.mp hclause).1⟩

end Query

namespace Catalog

/-- The answer to a query depends on the set of its conditions. -/
theorem search_congr (catalog : Catalog) {query query' : Query}
    (h : ∀ c, c ∈ query.conditions ↔ c ∈ query'.conditions) :
    catalog.search query = catalog.search query' := by
  unfold search
  exact List.filter_congr fun chart _ => Query.accepts_effective_congr h chart catalog.hardest

/-- Filters with the same clauses, whatever their order and repetition and the blanks
around them, are answered alike: with the same charts in the same order, or both with an
error about a clause. Two filters with a comma between them are the query of the
conditions of the one and then those of the other; if one of them is refused, the error
shows the first clause of both that is no condition, as it was given but for the blanks
around it. -/
theorem query_clauseOrder :
    (∀ (catalog : Catalog) (filter filter' : String), Query.SameClauses filter filter' →
      (∃ found, catalog.query filter = .ok found ∧ catalog.query filter' = .ok found) ∨
      ((∃ clause tokens, catalog.query filter = .error (.invalidCondition clause tokens)) ∧
        ∃ clause tokens, catalog.query filter' = .error (.invalidCondition clause tokens))) ∧
    ∀ filter filter' : String,
      (∃ query query', Query.parse filter = .ok query ∧ Query.parse filter' = .ok query' ∧
        Query.parse (filter ++ "," ++ filter') =
          .ok ⟨query.conditions ++ query'.conditions⟩) ∨
      ((∃ e, Query.parse filter = .error e ∨ Query.parse filter' = .error e) ∧
        ∃ before clause after,
          Query.clauses filter ++ Query.clauses filter' = before ++ clause :: after ∧
          (∀ x ∈ before, ∃ c, Condition.parse x = .ok c) ∧
          (∀ c, Condition.parse clause ≠ .ok c) ∧
          Query.parse (filter ++ "," ++ filter') =
            .error (.invalidCondition (trimString clause) (Condition.clauseTokens clause))) := by
  refine ⟨fun catalog filter filter' hsame => ?_, fun filter filter' => ?_⟩
  · unfold Catalog.query
    cases hparse : Query.parse filter with
    | error e =>
      right
      obtain ⟨e', hparse'⟩ := Query.isError_of_sameClauses hsame ⟨e, hparse⟩
      obtain ⟨clause, tokens, rfl⟩ := Query.exists_invalidCondition_of_parse hparse
      obtain ⟨clause', tokens', rfl⟩ := Query.exists_invalidCondition_of_parse hparse'
      rw [hparse']
      exact ⟨⟨clause, tokens, rfl⟩, clause', tokens', rfl⟩
    | ok query =>
      left
      cases hparse' : Query.parse filter' with
      | error e =>
        have hsame' : Query.SameClauses filter' filter := fun clause => (hsame clause).symm
        obtain ⟨e', he'⟩ := Query.isError_of_sameClauses hsame' ⟨e, hparse'⟩
        rw [hparse] at he'
        exact absurd he' (by simp)
      | ok query' =>
        refine ⟨catalog.search query, rfl, ?_⟩
        have hmem := Query.mem_conditions_of_sameClauses hsame hparse hparse'
        rw [catalog.search_congr hmem]
        rfl
  · cases hparse : Query.parse filter with
    | error e =>
      exact .inr ⟨⟨e, .inl rfl⟩, Query.parse_append_separator_eq_error ⟨e, .inl hparse⟩⟩
    | ok query =>
      cases hparse' : Query.parse filter' with
      | error e =>
        exact .inr ⟨⟨e, .inr rfl⟩, Query.parse_append_separator_eq_error ⟨e, .inr hparse'⟩⟩
      | ok query' =>
        exact .inl ⟨query, query', rfl, rfl, Query.parse_append_separator_eq_ok hparse hparse'⟩

/-- The clauses of `lv=40,-holds` in the other order, one of them twice, with a blank
clause between them and a comma after them. -/
theorem query_clauseOrder_shuffled :
    Query.SameClauses "lv=40,-holds" " -holds ,lv=40, ,lv=40\t," ∧
      ∃ found, twoCharts.query "lv=40,-holds" = .ok found ∧
        twoCharts.query " -holds ,lv=40, ,lv=40\t," = .ok found := by
  have hsame : Query.SameClauses "lv=40,-holds" " -holds ,lv=40, ,lv=40\t," := by
    have hleft : (Query.clauses "lv=40,-holds").map trimString = ["lv=40", "-holds"] := by
      decide +kernel
    have hright : (Query.clauses " -holds ,lv=40, ,lv=40\t,").map trimString =
        ["-holds", "lv=40", "lv=40"] := by decide +kernel
    intro clause
    rw [hleft, hright]
    simp [or_comm]
  refine ⟨hsame, (query_clauseOrder.1 twoCharts _ _ hsame).resolve_right ?_⟩
  rintro ⟨⟨clause, tokens, herror⟩, -⟩
  have hparse : Query.parse "lv=40,-holds" =
      .ok ⟨[.level .eq 40, .flag ⟨.holds, .forbid⟩]⟩ := by decide +kernel
  rw [Catalog.query, hparse] at herror
  exact absurd herror (by simp [Except.map])

end Catalog

end ChartCatalog
