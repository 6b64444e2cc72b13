import ChartCatalog.Proofs.Catalog.ClauseOrder
import ChartCatalog.Proofs.Query.And

/-!
# One more clause

What becomes of the answer to a filter when a clause is put behind it. A clause that is a
condition has no comma in it (`separator_not_mem_of_parse`), so it adds one condition to
the query (`parse_addedClause`). As a rule the answer becomes smaller. Only a clause that
names a flag that is left out by default and was not named before lets charts in
(`LetIn`): with a plus they join the answer, and without it they alone are the answer
(`query_addedClause`).
-/

namespace ChartCatalog

open Text Token

/-! ## Clauses have no comma in them -/

namespace Condition

section Parts

variable {s : List Char}

theorem separator_not_mem_of_isText (h : IsText s) : Query.separator ∉ s := by
  intro hmem
  exact absurd (List.all_eq_true.mp h _ hmem) (by decide)

theorem separator_not_mem_of_isWord (h : IsWord s) : Query.separator ∉ s := by
  intro hmem
  exact absurd (h.letters _ hmem) (by decide)

theorem separator_not_mem_sign {sign : List Char} (h : sign ∈ signs) : Query.separator ∉ sign :=
  separator_not_mem_of_isText (isText_sign h)

/-- No comma is in a part of a clause. -/
theorem Parts.separator_not_mem {parts : List (List Char)} {c : Condition} (h : Parts parts c) :
    ∀ part ∈ parts, Query.separator ∉ part := by
  have hcompared : ∀ {field sign s : List Char}, IsWord field → sign ∈ signs →
      Query.separator ∉ s → ∀ part ∈ [field, sign, s], Query.separator ∉ part := by
    intro field sign s hfield hsign hs
    simp only [List.forall_mem_cons]
    exact ⟨separator_not_mem_of_isWord hfield, separator_not_mem_sign hsign, hs,
      List.forall_mem_nil _⟩
  cases h with
  | never hfield =>
    simp only [List.forall_mem_cons]
    exact ⟨separator_not_mem_of_isWord (isWord_field hfield), by decide, List.forall_mem_nil _⟩
  | level comparison hs =>
    exact hcompared (by decide) (comparison_sign_mem comparison)
      (hs.number.digits.not_mem (by decide))
  | halfLevel comparison hs =>
    rename_i half
    obtain ⟨number, hnumber, rfl⟩ := hs
    have hletter : IsText [half.letter] := by cases half <;> decide
    exact hcompared (by decide) (halfComparison_sign_mem comparison)
      (separator_not_mem_of_isText ((isText_of_isDigits hnumber.number.digits).append hletter))
  | rating comparison hs =>
    exact hcompared (by decide) (comparison_sign_mem comparison)
      (separator_not_mem_of_isText (isText_of_numeral hs.numeral))
  | sranLevel comparison hs =>
    rename_i value
    have all : ∀ rank : Fin 21, ∀ s ∈ SranLevel.spellings ⟨rank⟩, Query.separator ∉ s := by
      decide +kernel
    exact hcompared (by decide) (comparison_sign_mem comparison) (all value.rank _ hs)
  | difficulty comparison hs =>
    exact hcompared (by decide) (equality_sign_mem comparison)
      (separator_not_mem_of_isWord hs.isWord)
  | flag hs =>
    simp only [List.forall_mem_singleton]
    cases hs with
    | require hs => exact separator_not_mem_of_isWord hs.isWord
    | allow hs =>
      rw [List.mem_cons, not_or]
      exact ⟨by decide, separator_not_mem_of_isWord hs.isWord⟩
    | forbid hmark hs =>
      rw [List.mem_cons, not_or]
      refine ⟨?_, separator_not_mem_of_isWord hs.isWord⟩
      rintro rfl
      exact absurd hmark (by decide)
  | folder comparison hfield hs =>
    have hfield' := isWord_field (List.mem_cons_of_mem "diff" hfield)
    refine hcompared hfield' (equality_sign_mem comparison) ?_
    cases hs with
    | consumer => decide
    | bemani => decide
    | version hs => exact hs.digits.not_mem (by decide)

end Parts

variable {clause : String} {c : Condition}

/-- A clause that is a condition has no comma in it. -/
theorem separator_not_mem_of_parse (h : parse clause = .ok c) :
    Query.separator ∉ clause.toList := by
  intro hmem
  have hlower : Query.separator ∈ lowerCase clause.toList :=
    mem_lowerFrom (by decide) (by decide +kernel) hmem
  rcases (spaced_scan _).mem_cases hlower with hblank | ⟨part, hpart, hmem⟩
  · exact absurd hblank (by decide)
  · exact (parts_of_parse h).separator_not_mem part hpart hmem

/-- A clause that is a condition is not blank. -/
theorem isBlankText_of_parse (h : parse clause = .ok c) : isBlankText clause.toList = false := by
  rw [Bool.eq_false_iff]
  intro hblank
  have hscan := scan_lowerCase_append_blanks hblank []
  rw [List.nil_append, lowerCase_nil, scan_nil] at hscan
  have hparts := parts_of_parse h
  rw [hscan] at hparts
  cases hparts

end Condition

/-! ## The query with the clause -/

namespace Query

variable {filter clause : String} {query : Query} {c : Condition}

theorem parse_clause (h : Condition.parse clause = .ok c) : parse clause = .ok ⟨[c]⟩ := by
  have hclauses : clauses clause = [clause] := by
    unfold clauses
    rw [splitOn_of_not_mem (Condition.separator_not_mem_of_parse h)]
    simp [Condition.isBlankText_of_parse h]
  rw [parse_eq_ok_iff, hclauses, List.map_singleton, h]
  rfl

/-- A clause behind a filter is one more condition. -/
theorem parse_addedClause (hfilter : parse filter = .ok query)
    (hclause : Condition.parse clause = .ok c) :
    parse (filter ++ "," ++ clause) = .ok (query.and c) :=
  parse_append_separator_eq_ok hfilter (parse_clause hclause)

/-- A filter is a query if its clauses are conditions. -/
theorem exists_query_of_clauses
    (h : ∀ clause ∈ clauses filter, ∃ c, Condition.parse clause = .ok c) :
    ∃ query, parse filter = .ok query := by
  cases hparse : parse filter with
  | ok query => exact ⟨query, rfl⟩
  | error e =>
    obtain ⟨clause, hclause, e', he'⟩ := parse_isError_iff.mp ⟨e, hparse⟩
    obtain ⟨c, hc⟩ := h clause hclause
    rw [hc] at he'
    exact absurd he' (by simp)

end Query

/-! ## The answer -/

namespace Catalog

/-- The chart is kept out of the answer to the filter by the exclusion of this flag, and by
nothing else. -/
structure LetIn (catalog : Catalog) (filter : String) (flag : Flag) (chart : Chart) : Prop where
  mem_charts : chart ∈ catalog.charts
  hasLabel : chart.hasLabel flag.name = true
  accepted : ∀ clause ∈ Query.clauses filter, ∃ c,
    Condition.parse clause = .ok c ∧ c.accepts chart catalog.hardest = true
  not_excluded : ∀ other ∈ [Flag.omnimix, .lively], other ≠ flag →
    chart.hasLabel other.name = false ∨ ∃ clause ∈ Query.clauses filter, NamesFlag clause other

variable {catalog : Catalog} {filter : String} {query : Query} {flag : Flag} {chart : Chart}

theorem letIn_iff (h : Query.parse filter = .ok query) (hflag : flag ∈ Flag.excludedByDefault) :
    catalog.LetIn filter flag chart ↔ chart ∈ catalog.charts ∧
      (∀ c ∈ query.conditions, c.accepts chart catalog.hardest = true) ∧
      flag.holdsFor chart catalog.hardest = true ∧
      ∀ other ∈ Flag.excludedByDefault, other ≠ flag →
        other.holdsFor chart catalog.hardest = false ∨ query.optsInto other = true := by
  have hothers : (∀ other ∈ Flag.excludedByDefault, other ≠ flag →
        other.holdsFor chart catalog.hardest = false ∨ query.optsInto other = true) ↔
      ∀ other ∈ Flag.excludedByDefault, other ≠ flag → chart.hasLabel other.name = false ∨
        ∃ clause ∈ Query.clauses filter, NamesFlag clause other :=
    forall₂_congr fun other hother => imp_congr_right fun _ =>
      not_excluded_iff_clauses h hother chart catalog.hardest
  rw [forall_accepts_iff_clauses h, hothers, holdsFor_excluded hflag]
  constructor
  · rintro ⟨hmem, hlabel, haccepted, hexcluded⟩
    exact ⟨hmem, haccepted, hlabel, hexcluded⟩
  · rintro ⟨hmem, haccepted, hlabel, hexcluded⟩
    exact ⟨hmem, hlabel, haccepted, hexcluded⟩

/-- A condition that lets nothing in leaves a part of the answer. -/
theorem search_and_sublist (catalog : Catalog) {c : Condition} (hne : query.conditions ≠ [])
    (hc : ∀ flag ∈ Flag.excludedByDefault, ¬ c.OptsInto flag) :
    (catalog.search (query.and c)).Sublist (catalog.search query) := by
  rw [catalog.search_and hne fun flag hflag hopts => absurd hopts (hc flag hflag)]
  exact List.filter_sublist

/-- Allowing a flag that is not left out, by default or because the query opts into it
already, changes nothing. -/
theorem search_and_allow (catalog : Catalog) (hne : query.conditions ≠ [])
    (h : flag ∉ Flag.excludedByDefault ∨ query.optsInto flag = true) :
    catalog.search (query.and (.flag ⟨flag, .allow⟩)) = catalog.search query := by
  rw [catalog.search_and hne]
  · exact List.filter_eq_self.mpr fun chart _ => rfl
  · intro other hother hopts
    obtain ⟨rfl, -⟩ := Condition.optsInto_flag_iff.mp hopts
    exact h.resolve_left fun hnot => hnot hother

/-- Requiring a flag that was left out gives the charts that were left out for it alone. -/
theorem mem_search_and_require (h : Query.parse filter = .ok query)
    (hflag : flag ∈ Flag.excludedByDefault) :
    chart ∈ catalog.search (query.and (.flag ⟨flag, .require⟩)) ↔
      catalog.LetIn filter flag chart := by
  rw [mem_search_iff, Query.accepts_and_flag (by decide), letIn_iff h hflag]
  exact Iff.rfl

/-- Allowing a flag that was left out adds these charts to the answer. -/
theorem mem_search_and_allow (h : Query.parse filter = .ok query) (hne : query.conditions ≠ [])
    (hflag : flag ∈ Flag.excludedByDefault) :
    chart ∈ catalog.search (query.and (.flag ⟨flag, .allow⟩)) ↔
      chart ∈ catalog.search query ∨ catalog.LetIn filter flag chart := by
  have hallow : (Condition.flag ⟨flag, .allow⟩).accepts chart catalog.hardest = true := rfl
  rw [mem_search_iff, Query.accepts_and_flag (by decide), mem_search_iff,
    Query.accepts_effective_iff, letIn_iff h hflag]
  constructor
  · rintro ⟨hmem, hall, -, hothers⟩
    cases hfact : flag.holdsFor chart catalog.hardest with
    | true => exact .inr ⟨hmem, hall, rfl, hothers⟩
    | false =>
      -- the exclusion did not concern the chart
      refine .inl ⟨hmem, hne, hall, fun other hother => ?_⟩
      by_cases heq : other = flag
      · exact .inl (heq ▸ hfact)
      · exact hothers other hother heq
  · rintro (⟨hmem, -, hall, hexcluded⟩ | ⟨hmem, hall, -, hothers⟩)
    · exact ⟨hmem, hall, hallow, fun other hother _ => hexcluded other hother⟩
    · exact ⟨hmem, hall, hallow, hothers⟩

/-- What is let in was not in the answer. -/
theorem LetIn.not_mem_search (h : Query.parse filter = .ok query)
    (hflag : flag ∈ Flag.excludedByDefault) (hopts : query.optsInto flag = false)
    (hletIn : catalog.LetIn filter flag chart) : chart ∉ catalog.search query := by
  intro hmem
  obtain ⟨-, -, hfact, -⟩ := (letIn_iff h hflag).mp hletIn
  obtain ⟨-, -, hexcluded⟩ := Query.accepts_effective_iff.mp (mem_search_iff.mp hmem).2
  rcases hexcluded flag hflag with hfalse | htrue
  · rw [hfact] at hfalse
    exact absurd hfalse (by decide)
  · rw [hopts] at htrue
    exact absurd htrue (by decide)

/-- The answer to a filter of one clause or more, all of them conditions, and to the same
filter with another clause `clause` behind it. Unless the clause names one of the flags
that are left out by default, bare or after a plus, the new answer is a part of the old
one. A clause that allows a flag changes nothing if the flag is not left out by default
or is named already. Otherwise the charts that only this exclusion kept out, which were not in the
old answer, are added to it, and the clause that is the bare name gives just these charts. -/
theorem query_addedClause (catalog : Catalog) {filter : String}
    (hfilter : Query.clauses filter ≠ [])
    (hclauses : ∀ clause ∈ Query.clauses filter, ∃ c, Condition.parse clause = .ok c) :
    (∀ flag : Flag, Condition.parse flag.name = .ok (.flag ⟨flag, .require⟩) ∧
      Condition.parse ("+" ++ flag.name) = .ok (.flag ⟨flag, .allow⟩)) ∧
    ∃ found, catalog.query filter = .ok found ∧
      ∀ (clause : String) (c : Condition), Condition.parse clause = .ok c →
        ∃ found', catalog.query (filter ++ "," ++ clause) = .ok found' ∧
          ((∀ flag ∈ [Flag.omnimix, .lively], ∀ polarity, c = .flag ⟨flag, polarity⟩ →
            polarity = .forbid) → found'.Sublist found) ∧
          (∀ flag : Flag, c = .flag ⟨flag, .allow⟩ →
            (flag ∉ [Flag.omnimix, .lively] ∨
              ∃ named ∈ Query.clauses filter, NamesFlag named flag) → found' = found) ∧
          ∀ flag ∈ [Flag.omnimix, .lively],
            (¬ ∃ named ∈ Query.clauses filter, NamesFlag named flag) →
            (c = .flag ⟨flag, .allow⟩ → found'.Sublist catalog.charts ∧
              ∀ chart, chart ∈ found' ↔ chart ∈ found ∨ catalog.LetIn filter flag chart) ∧
            (c = .flag ⟨flag, .require⟩ → found'.Sublist catalog.charts ∧
              ∀ chart, chart ∈ found' ↔ catalog.LetIn filter flag chart) ∧
            ∀ chart, catalog.LetIn filter flag chart → chart ∉ found := by
  obtain ⟨query, hparse⟩ := Query.exists_query_of_clauses hclauses
  have hne : query.conditions ≠ [] := fun hnil =>
    hfilter ((Query.conditions_eq_nil_iff hparse).mp hnil)
  refine ⟨fun flag => ⟨?_, ?_⟩, catalog.search query, query_eq_ok_iff.mpr ⟨query, hparse, rfl⟩,
    fun clause c hclause => ⟨catalog.search (query.and c),
      query_eq_ok_iff.mpr ⟨_, Query.parse_addedClause hparse hclause, rfl⟩, ?_, ?_, ?_⟩⟩
  · have htext : Condition.text (.flag ⟨flag, .require⟩) = flag.name := String.empty_append
    rw [← htext]
    exact Condition.parse_text_of_not_isSplit trivial id
  · exact Condition.parse_text_of_not_isSplit (c := .flag ⟨flag, .allow⟩) trivial id
  · intro hc
    refine catalog.search_and_sublist hne ?_
    rintro flag hflag ⟨polarity, hpolarity, rfl⟩
    exact hpolarity (hc flag hflag polarity rfl)
  · rintro flag rfl hnamed
    refine catalog.search_and_allow hne ?_
    by_cases hflag : flag ∈ Flag.excludedByDefault
    · exact .inr ((optsInto_iff_namesFlag hparse hflag).mpr (hnamed.resolve_left fun h => h hflag))
    · exact .inl hflag
  · intro flag hflag hnamed
    have hopts : query.optsInto flag = false := by
      rw [← Bool.not_eq_true, optsInto_iff_namesFlag hparse hflag]
      exact hnamed
    refine ⟨?_, ?_, fun chart => LetIn.not_mem_search hparse hflag hopts⟩
    · rintro rfl
      exact ⟨List.filter_sublist, fun chart => mem_search_and_allow hparse hne hflag⟩
    · rintro rfl
      exact ⟨List.filter_sublist, fun chart => mem_search_and_require hparse hflag⟩

/-- The chart with the label is not in the answer to `lv=40`, but joins it in the answer to
`lv=40,+omnimix`. -/
theorem query_addedClause_omnimix :
    Query.clauses "lv=40" ≠ [] ∧
      (∀ clause ∈ Query.clauses "lv=40", ∃ c, Condition.parse clause = .ok c) ∧
      ∃ found found', twoCharts.query "lv=40" = .ok found ∧
        twoCharts.query "lv=40,+omnimix" = .ok found' ∧
        omnimixChart ∉ found ∧ omnimixChart ∈ found' := by
  have hparse : Condition.parse "lv=40" = .ok (.level .eq 40) := by decide +kernel
  have hclauses : Query.clauses "lv=40" = ["lv=40"] := by decide
  have hne : Query.clauses "lv=40" ≠ [] := by simp [hclauses]
  have hall : ∀ clause ∈ Query.clauses "lv=40", ∃ c, Condition.parse clause = .ok c := by
    rw [hclauses, List.forall_mem_singleton]
    exact ⟨_, hparse⟩
  have hnamed : ¬ ∃ named ∈ Query.clauses "lv=40", NamesFlag named .omnimix := by
    rintro ⟨named, hmem, hnames⟩
    rw [hclauses, List.mem_singleton] at hmem
    rw [hmem, namesFlag_iff (by decide)] at hnames
    obtain ⟨polarity, -, hflag⟩ := hnames
    rw [hparse] at hflag
    exact absurd hflag (by simp)
  have hletIn : twoCharts.LetIn "lv=40" .omnimix omnimixChart := by
    refine ⟨List.mem_cons_of_mem _ List.mem_cons_self, by decide, ?_, ?_⟩
    · rw [hclauses, List.forall_mem_singleton]
      exact ⟨_, hparse, rfl⟩
    · simp only [List.forall_mem_cons]
      exact ⟨fun h => absurd rfl h, fun _ => .inl (by decide), List.forall_mem_nil _⟩
  obtain ⟨hnames, found, hfound, hadded⟩ := query_addedClause twoCharts hne hall
  obtain ⟨found', hfound', -, -, hletsIn⟩ := hadded "+omnimix" _ (hnames .omnimix).2
  obtain ⟨hallow, -, hnot⟩ := hletsIn .omnimix List.mem_cons_self hnamed
  exact ⟨hne, hall, found, found', hfound, hfound', hnot _ hletIn,
    ((hallow rfl).2 _).mpr (.inr hletIn)⟩

end Catalog

end ChartCatalog
