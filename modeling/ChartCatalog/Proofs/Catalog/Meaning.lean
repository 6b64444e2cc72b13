import ChartCatalog.Proofs.Catalog.Build
import ChartCatalog.Proofs.Condition.Clause
import ChartCatalog.Proofs.Query.Effective
import ChartCatalog.Proofs.Query.RoundTrip

/-!
# The meaning of a filter

What `query` answers for a filter, from its clauses alone: an error if one of
them is no condition, nothing if there are none, and otherwise, in catalog order
and each once, the charts that satisfy them all and do not carry a label that is
left out by default without being named (`query_meaning`).
-/

namespace ChartCatalog.Catalog

open Text

variable {catalog : Catalog} {filter : String}

/-- The clause is the name of the flag, bare or after a `+`. -/
def NamesFlag (clause : String) (flag : Flag) : Prop :=
  ∃ s ∈ [flag.name.toList, '+' :: flag.name.toList], Spaced [s] (lowerCase clause.toList)

/-- The labels that are left out by default have one name only. -/
theorem eq_name_of_spelling {s : List Char} {flag : Flag} (hflag : flag ∈ Flag.excludedByDefault)
    (h : flag.Spelling s) : s = flag.name.toList := by
  cases h with
  | name => rfl
  | soflan => exact absurd hflag (by decide)

theorem namesFlag_iff {clause : String} {flag : Flag} (hflag : flag ∈ Flag.excludedByDefault) :
    NamesFlag clause flag ↔ ∃ polarity, polarity ≠ .forbid ∧
      Condition.parse clause = .ok (.flag ⟨flag, polarity⟩) := by
  constructor
  · rintro ⟨s, hs, hspaced⟩
    have hname := Flag.Spelling.name flag
    simp only [List.mem_cons, List.not_mem_nil, or_false] at hs
    rcases hs with rfl | rfl
    · exact ⟨.require, by decide, Condition.parse_of_parts (.flag (.require hname)) hspaced⟩
    · exact ⟨.allow, by decide, Condition.parse_of_parts (.flag (.allow hname)) hspaced⟩
  · rintro ⟨polarity, hpolarity, hparse⟩
    have hspaced := Token.spaced_scan (lowerCase clause.toList)
    have hparts := Condition.parts_of_parse hparse
    generalize Token.scan (lowerCase clause.toList) = parts at hspaced hparts
    cases hparts with
    | flag hs =>
      cases hs with
      | require hs =>
        rw [eq_name_of_spelling hflag hs] at hspaced
        exact ⟨_, List.mem_cons_self, hspaced⟩
      | allow hs =>
        rw [eq_name_of_spelling hflag hs] at hspaced
        exact ⟨_, List.mem_cons_of_mem _ List.mem_cons_self, hspaced⟩
      | forbid _ hs => exact absurd rfl hpolarity

theorem optsInto_iff_namesFlag {query : Query} (h : Query.parse filter = .ok query) {flag : Flag}
    (hflag : flag ∈ Flag.excludedByDefault) :
    query.optsInto flag = true ↔ ∃ clause ∈ Query.clauses filter, NamesFlag clause flag := by
  rw [Query.optsInto_iff]
  constructor
  · rintro ⟨polarity, hpolarity, hmem⟩
    obtain ⟨clause, hclause, hparse⟩ := (Query.mem_conditions_iff h).mp hmem
    exact ⟨clause, hclause, (namesFlag_iff hflag).mpr ⟨polarity, hpolarity, hparse⟩⟩
  · rintro ⟨clause, hclause, hnames⟩
    obtain ⟨polarity, hpolarity, hparse⟩ := (namesFlag_iff hflag).mp hnames
    exact ⟨polarity, hpolarity, (Query.mem_conditions_iff h).mpr ⟨clause, hclause, hparse⟩⟩

theorem query_eq_ok_iff {found : List Chart} : catalog.query filter = .ok found ↔
    ∃ query, Query.parse filter = .ok query ∧ catalog.search query = found := by
  unfold Catalog.query
  cases Query.parse filter with
  | error e => simp [Except.map]
  | ok query => simp [Except.map]

theorem query_isError_iff : (∃ e, catalog.query filter = .error e) ↔
    ∃ clause ∈ Query.clauses filter, ∃ e, Condition.parse clause = .error e := by
  rw [← Query.parse_isError_iff, Catalog.query]
  cases Query.parse filter with
  | error e => simp [Except.map]
  | ok query => simp [Except.map]

/-- The catalog lists no chart twice. -/
theorem charts_nodup (catalog : Catalog) : catalog.charts.Nodup :=
  (List.pairwise_map.mp catalog.ids_nodup).imp fun hids heq => hids (congrArg _ heq)

theorem mem_search_iff {query : Query} {chart : Chart} : chart ∈ catalog.search query ↔
    chart ∈ catalog.charts ∧ query.effective.accepts chart catalog.hardest = true :=
  List.mem_filter

theorem search_of_conditions_eq_nil {query : Query} (h : query.conditions = []) :
    catalog.search query = [] := by
  refine List.eq_nil_iff_forall_not_mem.mpr fun chart hchart => ?_
  exact (Query.accepts_effective_iff.mp (mem_search_iff.mp hchart).2).1 h

theorem query_of_clauses_eq_nil (catalog : Catalog) (h : Query.clauses filter = []) :
    catalog.query filter = .ok [] := by
  have hparse : Query.parse filter = .ok ⟨[]⟩ := by
    rw [Query.parse_eq_ok_iff, h]
    rfl
  rw [query_eq_ok_iff]
  exact ⟨_, hparse, search_of_conditions_eq_nil rfl⟩

/-- The facts that are left out by default are labels of their own names. -/
theorem holdsFor_excluded {flag : Flag} (hflag : flag ∈ Flag.excludedByDefault) (chart : Chart)
    (hardest : HardestOf) : flag.holdsFor chart hardest = chart.hasLabel flag.name := by
  simp only [Flag.excludedByDefault, List.mem_cons, List.not_mem_nil, or_false] at hflag
  rcases hflag with rfl | rfl
  · rfl
  · rfl

/-- A chart satisfies the conditions of a filter if it satisfies its clauses. -/
theorem forall_accepts_iff_clauses {query : Query} (h : Query.parse filter = .ok query)
    (chart : Chart) (hardest : HardestOf) :
    (∀ c ∈ query.conditions, c.accepts chart hardest = true) ↔
      ∀ clause ∈ Query.clauses filter, ∃ c,
        Condition.parse clause = .ok c ∧ c.accepts chart hardest = true := by
  constructor
  · intro haccepts clause hclause
    obtain ⟨c, hc⟩ := Query.exists_condition_of_mem h hclause
    exact ⟨c, hc, haccepts c ((Query.mem_conditions_iff h).mpr ⟨clause, hclause, hc⟩)⟩
  · intro haccepts c hc
    obtain ⟨clause, hclause, hparse⟩ := (Query.mem_conditions_iff h).mp hc
    obtain ⟨c', hparse', haccept⟩ := haccepts clause hclause
    rw [hparse] at hparse'
    rwa [Except.ok.inj hparse']

/-- An exclusion does not concern a chart if the chart does not carry the label or a clause
names it. -/
theorem not_excluded_iff_clauses {query : Query} (h : Query.parse filter = .ok query)
    {flag : Flag} (hflag : flag ∈ Flag.excludedByDefault) (chart : Chart) (hardest : HardestOf) :
    (flag.holdsFor chart hardest = false ∨ query.optsInto flag = true) ↔
      (chart.hasLabel flag.name = false ∨
        ∃ clause ∈ Query.clauses filter, NamesFlag clause flag) := by
  rw [holdsFor_excluded hflag, optsInto_iff_namesFlag h hflag]

/-- What a filter with clauses lists, in terms of its clauses. -/
theorem mem_search_iff_clauses {query : Query} (h : Query.parse filter = .ok query)
    (hclauses : Query.clauses filter ≠ []) {chart : Chart} :
    chart ∈ catalog.search query ↔ chart ∈ catalog.charts ∧
      (∀ clause ∈ Query.clauses filter, ∃ c,
        Condition.parse clause = .ok c ∧ c.accepts chart catalog.hardest = true) ∧
      ∀ flag ∈ Flag.excludedByDefault, chart.hasLabel flag.name = false ∨
        ∃ clause ∈ Query.clauses filter, NamesFlag clause flag := by
  have hne : query.conditions ≠ [] := fun hnil =>
    hclauses ((Query.conditions_eq_nil_iff h).mp hnil)
  have hlabels : (∀ flag ∈ Flag.excludedByDefault,
        flag.holdsFor chart catalog.hardest = false ∨ query.optsInto flag = true) ↔
      ∀ flag ∈ Flag.excludedByDefault, chart.hasLabel flag.name = false ∨
        ∃ clause ∈ Query.clauses filter, NamesFlag clause flag :=
    forall₂_congr fun flag hflag => not_excluded_iff_clauses h hflag chart catalog.hardest
  rw [mem_search_iff, Query.accepts_effective_iff, forall_accepts_iff_clauses h, hlabels]
  exact and_congr_right fun _ => and_iff_right hne

/-- A clause that forbids a label removes the charts that carry it, whatever the
other clauses say. -/
theorem hasLabel_of_forbid {flag : Flag} (hflag : flag ∈ Flag.excludedByDefault) {chart : Chart}
    {clause : String} (hclause : Condition.parse clause = .ok (.flag ⟨flag, .forbid⟩))
    (h : ∃ c, Condition.parse clause = .ok c ∧ c.accepts chart catalog.hardest = true) :
    chart.hasLabel flag.name = false := by
  obtain ⟨c, hc, haccepts⟩ := h
  rw [hclause] at hc
  rw [← Except.ok.inj hc, Query.accepts_forbid_iff, holdsFor_excluded hflag] at haccepts
  exact haccepts

/-- The answer for a filter: an error exactly if some clause is no condition;
nothing without clauses; and else the charts that satisfy every clause and whose
labels `omnimix` and `lively`, if they carry them, are named by some clause. -/
theorem query_meaning (catalog : Catalog) (filter : String) :
    ((∃ e, catalog.query filter = .error e) ↔
      ∃ clause ∈ Query.clauses filter, ∃ e, Condition.parse clause = .error e) ∧
    (Query.clauses filter = [] → catalog.query filter = .ok []) ∧
    ∀ found, catalog.query filter = .ok found → Query.clauses filter ≠ [] →
      found.Sublist catalog.charts ∧ found.Nodup ∧
      (∀ chart, chart ∈ found ↔ chart ∈ catalog.charts ∧
        (∀ clause ∈ Query.clauses filter, ∃ c,
          Condition.parse clause = .ok c ∧ c.accepts chart catalog.hardest = true) ∧
        ∀ flag ∈ [Flag.omnimix, .lively], chart.hasLabel flag.name = false ∨
          ∃ clause ∈ Query.clauses filter, NamesFlag clause flag) ∧
      ∀ flag ∈ [Flag.omnimix, .lively],
        (∃ clause ∈ Query.clauses filter,
          Condition.parse clause = .ok (.flag ⟨flag, .forbid⟩)) →
        ∀ chart ∈ found, chart.hasLabel flag.name = false := by
  refine ⟨query_isError_iff, catalog.query_of_clauses_eq_nil, fun found hfound hclauses => ?_⟩
  obtain ⟨query, hparse, rfl⟩ := query_eq_ok_iff.mp hfound
  refine ⟨List.filter_sublist, catalog.charts_nodup.filter _,
    fun chart => mem_search_iff_clauses hparse hclauses, ?_⟩
  rintro flag hflag ⟨clause, hclause, hforbid⟩ chart hchart
  have haccepts := ((mem_search_iff_clauses hparse hclauses).mp hchart).2.1 clause hclause
  exact hasLabel_of_forbid hflag hforbid haccepts

/-- A chart of level 40. -/
def plainChart : Chart := .draft "1234ex" "1234" .extra 40

/-- A chart of the same level that carries a label left out by default. -/
def omnimixChart : Chart := (Chart.draft "2000ex" "2000" .extra 40).apply (.label "omnimix")

/-- A catalog of the two. -/
def twoCharts : Catalog := ofFaultless [plainChart, omnimixChart] (by decide) (by decide)

/-- `lv=40` lists the one chart and leaves out the other. -/
theorem query_meaning_twoCharts : ∃ found, twoCharts.query "lv=40" = .ok found ∧
    plainChart ∈ found ∧ omnimixChart ∉ found := by
  have hparse : Condition.parse "lv=40" = .ok (.level .eq 40) :=
    Condition.parse_text_of_not_isSplit (c := .level .eq 40) (by decide) (by decide)
  have hclauses : Query.clauses "lv=40" = ["lv=40"] := by decide
  have hquery : Query.parse "lv=40" = .ok ⟨[.level .eq 40]⟩ := by
    rw [Query.parse_eq_ok_iff, hclauses, List.map_singleton, hparse]
    rfl
  have hfound : twoCharts.query "lv=40" = .ok (twoCharts.search ⟨[.level .eq 40]⟩) :=
    query_eq_ok_iff.mpr ⟨_, hquery, rfl⟩
  obtain ⟨-, -, hmem, -⟩ := (query_meaning twoCharts "lv=40").2.2 _ hfound (by simp [hclauses])
  rw [hclauses] at hmem
  refine ⟨_, hfound, (hmem plainChart).mpr ⟨List.mem_cons_self, ?_, ?_⟩, fun homnimix => ?_⟩
  · intro clause hclause
    rw [List.mem_singleton.mp hclause]
    exact ⟨_, hparse, rfl⟩
  · intro flag _
    exact .inl (by cases flag <;> rfl)
  · -- the label is carried, and the only clause does not name it
    obtain ⟨-, -, hlabels⟩ := (hmem omnimixChart).mp homnimix
    rcases hlabels .omnimix List.mem_cons_self with h | ⟨clause, hclause, hnames⟩
    · exact absurd h (by decide)
    · rw [List.mem_singleton.mp hclause, namesFlag_iff (by decide)] at hnames
      obtain ⟨polarity, -, hflag⟩ := hnames
      rw [hparse] at hflag
      exact absurd hflag (by simp)

end ChartCatalog.Catalog
