import Mathlib.Logic.Function.Iterate
import ChartCatalog.CommandLine.Response
import ChartCatalog.Proofs.Catalog.Meaning

/-!
# Writing out the exclusions

The effective query of a query is the query with its exclusions written out at the end.
Writing them out opts into nothing and rules out nothing that was not ruled out before,
so it can be done any number of times: the query only becomes longer
(`query_effective`). Its text is a filter with the same answer.
-/

namespace ChartCatalog

namespace Query

variable {query : Query} {chart : Chart} {hardest : HardestOf} {flag : Flag}

/-! ## Once -/

theorem conditions_effective (h : query.conditions ≠ []) :
    query.effective.conditions = query.conditions ++ query.exclusions := by
  have hisEmpty : query.isEmpty = false := by simpa [isEmpty] using h
  simp [effective, hisEmpty]

theorem effective_of_conditions_eq_nil (h : query.conditions = []) : query.effective = query := by
  obtain ⟨conditions⟩ := query
  cases h
  rfl

/-- The exclusions stand at the end. -/
theorem prefix_effective (query : Query) : query.conditions <+: query.effective.conditions := by
  by_cases h : query.conditions = []
  · simp [effective_of_conditions_eq_nil h]
  · rw [conditions_effective h]
    exact List.prefix_append _ _

theorem eq_forbid_of_mem_exclusions {c : Condition} (h : c ∈ query.exclusions) :
    ∃ flag, c = .flag ⟨flag, .forbid⟩ := by
  obtain ⟨flag, -, hc⟩ := List.mem_map.mp h
  exact ⟨flag, hc.symm⟩

theorem mem_effective_cases {c : Condition} (h : c ∈ query.effective.conditions) :
    c ∈ query.conditions ∨ ∃ flag, c = .flag ⟨flag, .forbid⟩ := by
  by_cases hnil : query.conditions = []
  · rw [effective_of_conditions_eq_nil hnil] at h
    exact .inl h
  · rw [conditions_effective hnil, List.mem_append] at h
    exact h.imp_right eq_forbid_of_mem_exclusions

/-- Exclusions opt into nothing. -/
theorem optsInto_effective (query : Query) (flag : Flag) :
    query.effective.optsInto flag = query.optsInto flag := by
  rw [Bool.eq_iff_iff, optsInto_iff, optsInto_iff]
  constructor
  · rintro ⟨polarity, hpolarity, hmem⟩
    refine ⟨polarity, hpolarity, (mem_effective_cases hmem).resolve_right ?_⟩
    rintro ⟨flag', hflag⟩
    cases hflag
    exact hpolarity rfl
  · rintro ⟨polarity, hpolarity, hmem⟩
    exact ⟨polarity, hpolarity, (prefix_effective query).subset hmem⟩

theorem exclusions_effective (query : Query) : query.effective.exclusions = query.exclusions := by
  simp only [exclusions, optsInto_effective]

/-- The exclusions that are written out are the ones that are understood anyway. -/
theorem accepts_effective_effective (query : Query) (chart : Chart) (hardest : HardestOf) :
    query.effective.effective.accepts chart hardest = query.effective.accepts chart hardest := by
  by_cases hnil : query.conditions = []
  · rw [effective_of_conditions_eq_nil hnil, effective_of_conditions_eq_nil hnil]
  have hne : query.effective.conditions ≠ [] := by
    simp [conditions_effective hnil, hnil]
  rw [Bool.eq_iff_iff, accepts_effective_iff, accepts_effective_iff]
  simp only [optsInto_effective, ← accepts_exclusions_iff, conditions_effective hnil,
    List.forall_mem_append, List.all_eq_true]
  simp [hnil]

/-! ## Any number of times -/

theorem optsInto_iterate (query : Query) (flag : Flag) (n : Nat) :
    (effective^[n] query).optsInto flag = query.optsInto flag := by
  induction n with
  | zero => rfl
  | succ n ih => rw [Function.iterate_succ_apply', optsInto_effective, ih]

theorem prefix_iterate (query : Query) (n : Nat) :
    query.conditions <+: (effective^[n] query).conditions := by
  induction n with
  | zero => exact List.prefix_rfl
  | succ n ih =>
    rw [Function.iterate_succ_apply']
    exact ih.trans (prefix_effective _)

theorem exclusions_iterate (query : Query) (n : Nat) :
    (effective^[n] query).exclusions = query.exclusions := by
  induction n with
  | zero => rfl
  | succ n ih => rw [Function.iterate_succ_apply', exclusions_effective, ih]

/-- The exclusions are appended each time again. -/
theorem length_iterate (h : query.conditions ≠ []) (n : Nat) :
    (effective^[n] query).conditions.length =
      query.conditions.length + n * query.exclusions.length := by
  induction n with
  | zero => simp
  | succ n ih =>
    have hne : (effective^[n] query).conditions ≠ [] := fun hnil =>
      h (List.eq_nil_of_prefix_nil (hnil ▸ prefix_iterate query n))
    rw [Function.iterate_succ_apply', conditions_effective hne, List.length_append, ih,
      exclusions_iterate, Nat.add_one_mul, Nat.add_assoc]

/-- A property of conditions that all forbidding clauses have is kept. -/
theorem forall_mem_iterate {p : Condition → Prop} (hforbid : ∀ flag, p (.flag ⟨flag, .forbid⟩))
    (h : ∀ c ∈ query.conditions, p c) (n : Nat) :
    ∀ c ∈ (effective^[n] query).conditions, p c := by
  induction n with
  | zero => exact h
  | succ n ih =>
    intro c hc
    rw [Function.iterate_succ_apply'] at hc
    rcases mem_effective_cases hc with hc | ⟨flag, rfl⟩
    · exact ih c hc
    · exact hforbid flag

theorem parse_text_iterate (h : ∀ c ∈ query.conditions, c.WellFormed)
    (hsplit : ∀ c ∈ query.conditions, ¬ c.IsSplit) (n : Nat) :
    parse (effective^[n] query).text = .ok (effective^[n] query) := by
  apply parse_text_of_not_isSplit
  · exact forall_mem_iterate (fun _ => trivial) h n
  · exact forall_mem_iterate (fun _ => id) hsplit n

theorem wellFormed_of_parse {filter : String} (h : parse filter = .ok query) :
    ∀ c ∈ query.conditions, c.WellFormed := by
  intro c hc
  obtain ⟨clause, -, hclause⟩ := (mem_conditions_iff h).mp hc
  exact Condition.wellFormed_of_parse hclause

/-- How a filter is understood ends in the text of its effective query. -/
theorem exists_parseText_eq (h : query.conditions ≠ []) : ∃ lines,
    CommandLine.parseText query = lines ++ "effective: " ++ query.effective.text ++ "\n" := by
  have hisEmpty : query.isEmpty = false := by simpa [isEmpty] using h
  rw [CommandLine.parseText, hisEmpty]
  exact ⟨_, rfl⟩

end Query

namespace Catalog

theorem search_iterate (catalog : Catalog) (query : Query) (n : Nat) :
    catalog.search (Query.effective^[n] query) = catalog.search query := by
  induction n with
  | zero => rfl
  | succ n ih =>
    rw [Function.iterate_succ_apply', ← ih]
    exact List.filter_congr fun chart _ => Query.accepts_effective_effective _ _ _

/-- Writing out the exclusions of a filter's query, any number of times, keeps the
conditions and puts more after them, opts into the same flags and has the same answer in
every catalog. If no rating in the filter is one that is split, the text of the query
with its exclusions, which is what is shown for the filter, is a filter for just this
query, with the same answer again. -/
theorem query_effective {filter : String} {query : Query} (h : Query.parse filter = .ok query) :
    (∀ n flag, (Query.effective^[n] query).optsInto flag = query.optsInto flag) ∧
    (∀ n, query.conditions <+: (Query.effective^[n] query).conditions) ∧
    (query.conditions ≠ [] → ∀ n, (Query.effective^[n] query).conditions.length =
      query.conditions.length + n * query.exclusions.length) ∧
    (∀ (catalog : Catalog) n,
      catalog.search (Query.effective^[n] query) = catalog.search query ∧
        catalog.query filter = .ok (catalog.search query)) ∧
    (query.conditions ≠ [] → ∃ lines, CommandLine.parseText query =
      lines ++ "effective: " ++ query.effective.text ++ "\n") ∧
    ((∀ c ∈ query.conditions, ¬ c.IsSplit) → ∀ n,
      Query.parse (Query.effective^[n] query).text = .ok (Query.effective^[n] query) ∧
        ∀ catalog : Catalog,
          catalog.query (Query.effective^[n] query).text = catalog.query filter) := by
  have hanswer : ∀ catalog : Catalog, catalog.query filter = .ok (catalog.search query) :=
    fun catalog => query_eq_ok_iff.mpr ⟨query, h, rfl⟩
  refine ⟨fun n flag => query.optsInto_iterate flag n, query.prefix_iterate,
    Query.length_iterate, fun catalog n => ⟨catalog.search_iterate query n, hanswer catalog⟩,
    Query.exists_parseText_eq, ?_⟩
  intro hsplit n
  have hparse := Query.parse_text_iterate (Query.wellFormed_of_parse h) hsplit n
  refine ⟨hparse, fun catalog => ?_⟩
  rw [hanswer, ← catalog.search_iterate query n]
  exact query_eq_ok_iff.mpr ⟨_, hparse, rfl⟩

/-- The query of `lv=40,+omnimix`. -/
def omnimixQuery : Query := ⟨[.level .eq 40, .flag ⟨.omnimix, .allow⟩]⟩

/-- One of the two exclusions is written out, once each time. -/
theorem query_effective_omnimix :
    Query.parse "lv=40,+omnimix" = .ok omnimixQuery ∧
      (Query.effective^[2] omnimixQuery).text = "lv=40,+omnimix,-lively,-lively" ∧
      (Query.effective^[2] omnimixQuery).conditions.length = 4 ∧
      ∀ catalog : Catalog, catalog.query "lv=40,+omnimix,-lively,-lively" =
        catalog.query "lv=40,+omnimix" := by
  have hparse : Query.parse "lv=40,+omnimix" = .ok omnimixQuery := by decide +kernel
  have htext : (Query.effective^[2] omnimixQuery).text = "lv=40,+omnimix,-lively,-lively" := by
    decide +kernel
  obtain ⟨-, -, hlength, -, -, htexts⟩ := query_effective hparse
  refine ⟨hparse, htext, hlength (by decide) 2, fun catalog => ?_⟩
  rw [← htext]
  refine (htexts ?_ 2).2 catalog
  simp [omnimixQuery, Condition.IsSplit]

end Catalog

end ChartCatalog
