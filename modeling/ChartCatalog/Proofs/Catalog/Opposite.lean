import ChartCatalog.Proofs.Catalog.Meaning
import ChartCatalog.Proofs.Query.And

/-!
# Opposite clauses

Most clauses have an opposite (`Condition.opposite?`): the comparison the other way
round, or the flag forbidden. Of the charts that have the field in question, the
opposite accepts exactly those that the clause does not accept (`accepts_opposite`), so
the two divide the answer to a query between them (`search_opposite`). A flag that is
left out by default is the one exception. Requiring it lifts the exclusion, so together the
two clauses select as much as the clause that allows the flag.
-/

namespace ChartCatalog

open Number

/-! ## Opposite comparisons -/

/-- The comparison that holds where this one does not. -/
def Comparison.opposite : Comparison → Comparison
  | eq => ne
  | ne => eq
  | gt => le
  | ge => lt
  | lt => ge
  | le => gt

/-- The comparison that keeps what this one does not. -/
def Equality.opposite : Equality → Equality
  | eq => ne
  | ne => eq

/-- Of two sides that have an order, one of two opposite comparisons holds. -/
theorem Comparison.holds_opposite (comparison : Comparison) (order : Ordering) :
    comparison.opposite.holds (some order) = !comparison.holds (some order) := by
  cases comparison <;> cases order <;> rfl

theorem Equality.keeps_opposite (comparison : Equality) (isMatch : Bool) :
    comparison.opposite.keeps isMatch = !comparison.keeps isMatch := by
  cases comparison <;> cases isMatch <;> rfl

/-- Finite numbers have an order. -/
theorem Number.Binary64.exists_compare? {x y : Binary64} (hx : x.isFinite = true)
    (hy : y.isFinite = true) : ∃ order, x.compare? y = some order := by
  obtain ⟨_, _, _, rfl⟩ := exists_eq_finite hx
  obtain ⟨_, _, _, rfl⟩ := exists_eq_finite hy
  exact ⟨_, rfl⟩

/-- Texts decide whether ratings are equal, and numbers which one is greater; either way one
of two opposite comparisons holds. -/
theorem Rating.satisfies_opposite (comparison : Comparison) {rating value : Binary64}
    (hrating : rating.isFinite = true) (hvalue : value.isFinite = true) :
    Rating.satisfies comparison.opposite rating value =
      !Rating.satisfies comparison rating value := by
  obtain ⟨order, horder⟩ := Binary64.exists_compare? hrating hvalue
  cases comparison with
  | eq => rfl
  | ne => exact (Bool.not_not _).symm
  | gt | ge | lt | le =>
    simp only [Comparison.opposite, Rating.satisfies, horder]
    cases order <;> rfl

/-! ## Opposite conditions -/

namespace Condition

/-- The opposite of a condition, for the conditions that have one. -/
def opposite? : Condition → Option Condition
  | level comparison value => some (level comparison.opposite value)
  | rating comparison value => some (rating comparison.opposite value)
  | sranLevel comparison value => some (sranLevel comparison.opposite value)
  | difficulty comparison values => some (difficulty comparison.opposite values)
  | folder comparison value => some (folder comparison.opposite value)
  | flag ⟨fact, .require⟩ => some (flag ⟨fact, .forbid⟩)
  | flag ⟨fact, .forbid⟩ => some (flag ⟨fact, .require⟩)
  | flag ⟨_, .allow⟩ | never | halfLevel .. => none

/-- A condition that compares ratings compares them with a finite number. -/
def HasFiniteOperand : Condition → Prop
  | rating _ value => value.isFinite = true
  | never | level .. | halfLevel .. | sranLevel .. | difficulty .. | flag _ | folder .. => True

/-- Does the chart have the field that the condition is about? -/
def hasField (c : Condition) (chart : Chart) : Bool :=
  match c with
  | rating .. | halfLevel .. => chart.rating.isSome
  | sranLevel .. => chart.sranLevel.isSome
  | never | level .. | difficulty .. | flag _ | folder .. => true

variable {c c' : Condition} {chart : Chart}

/-- A chart without the field satisfies no comparison of it. -/
theorem accepts_of_not_hasField (h : c.hasField chart = false) (hardest : HardestOf) :
    c.accepts chart hardest = false := by
  cases c with
  | rating comparison value =>
    have hnone : chart.rating = none := by simpa [hasField] using h
    simp [accepts, hnone]
  | halfLevel comparison value half =>
    have hnone : chart.rating = none := by simpa [hasField] using h
    simp [accepts, hnone]
  | sranLevel comparison value =>
    have hnone : chart.sranLevel = none := by simpa [hasField] using h
    simp [accepts, hnone]
  | never | level | difficulty | flag | folder => exact absurd h (by simp [hasField])

/-- Of the charts that have the field, the opposite condition accepts those that the
condition does not accept. -/
theorem accepts_opposite (hopposite : c.opposite? = some c') (hc : c.HasFiniteOperand)
    (hchart : ∀ rating ∈ chart.rating, rating.isFinite = true) (hardest : HardestOf) :
    c'.accepts chart hardest = (c.hasField chart && !c.accepts chart hardest) := by
  cases c with
  | never => exact absurd hopposite (by simp [opposite?])
  | halfLevel comparison value half => exact absurd hopposite (by simp [opposite?])
  | level comparison value =>
    cases hopposite
    exact comparison.holds_opposite _
  | rating comparison value =>
    cases hopposite
    unfold accepts hasField
    cases hrating : chart.rating with
    | none => rfl
    | some rating => exact Rating.satisfies_opposite comparison (hchart rating hrating) hc
  | sranLevel comparison value =>
    cases hopposite
    unfold accepts hasField
    cases chart.sranLevel with
    | none => rfl
    | some s => exact comparison.holds_opposite _
  | difficulty comparison values =>
    cases hopposite
    exact comparison.keeps_opposite _
  | flag clause =>
    obtain ⟨flag, polarity⟩ := clause
    cases polarity with
    | require =>
      cases hopposite
      rfl
    | forbid =>
      cases hopposite
      exact (Bool.not_not _).symm
    | allow => exact absurd hopposite (by simp [opposite?])
  | folder comparison value =>
    cases hopposite
    exact comparison.keeps_opposite _

/-- The condition is a clause about a flag that is left out by default. -/
def IsAboutExcluded (c : Condition) : Prop :=
  ∃ flag ∈ Flag.excludedByDefault, ∃ polarity, c = .flag ⟨flag, polarity⟩

/-- The opposite of a clause about a flag is about the same flag. -/
theorem exists_opposite_flag {flag : Flag} {polarity : Polarity}
    (hopposite : (Condition.flag ⟨flag, polarity⟩).opposite? = some c') :
    ∃ polarity', c' = .flag ⟨flag, polarity'⟩ := by
  cases polarity with
  | require =>
    cases hopposite
    exact ⟨.forbid, rfl⟩
  | forbid =>
    cases hopposite
    exact ⟨.require, rfl⟩
  | allow => exact absurd hopposite (by simp [opposite?])

/-- The opposite of any other clause is about no flag. -/
theorem isAboutExcluded_of_opposite (hopposite : c.opposite? = some c')
    (h : c'.IsAboutExcluded) : c.IsAboutExcluded := by
  obtain ⟨flag, hflag, polarity, rfl⟩ := h
  cases c with
  | flag clause =>
    obtain ⟨_, heq⟩ := exists_opposite_flag hopposite
    cases heq
    exact ⟨clause.flag, hflag, clause.polarity, rfl⟩
  | never | level | halfLevel | rating | sranLevel | difficulty | folder =>
    exact absurd hopposite (by simp [opposite?])

theorem optsInto_of_not_isAboutExcluded (h : ¬ c.IsAboutExcluded) (query : Query) :
    ∀ flag ∈ Flag.excludedByDefault, c.OptsInto flag → query.optsInto flag = true := by
  rintro flag hflag ⟨polarity, -, rfl⟩
  exact absurd ⟨flag, hflag, polarity, rfl⟩ h

end Condition

/-! ## Two halves of an answer -/

namespace Catalog

variable {query : Query} {c c' : Condition}

/-- The charts of the catalog that are in one of two lists, in catalog order. -/
def merged (catalog : Catalog) (found found' : List Chart) : List Chart :=
  catalog.charts.filter fun chart => chart ∈ found ∨ chart ∈ found'

theorem finite_of_mem_charts {catalog : Catalog} {chart : Chart} (h : chart ∈ catalog.charts) :
    ∀ rating ∈ chart.rating, rating.isFinite = true :=
  (Chart.fault?_eq_none_iff.mp (catalog.faultless chart h)).2.2.2

/-- What a condition and its opposite accept of an answer are, put together, the charts
of the answer that have the field. -/
theorem merged_opposite (catalog : Catalog) (query : Query) (hc : c.HasFiniteOperand)
    (hopposite : c.opposite? = some c') :
    catalog.merged ((catalog.search query).filter (c.accepts · catalog.hardest))
        ((catalog.search query).filter (c'.accepts · catalog.hardest)) =
      (catalog.search query).filter c.hasField := by
  have hright : (catalog.search query).filter c.hasField = catalog.charts.filter fun chart =>
      c.hasField chart && query.effective.accepts chart catalog.hardest := List.filter_filter
  rw [hright]
  refine List.filter_congr fun chart hchart => ?_
  have hhalves := Condition.accepts_opposite hopposite hc (finite_of_mem_charts hchart)
    catalog.hardest
  have hlacking : c.hasField chart = false → c.accepts chart catalog.hardest = false :=
    fun hfield => Condition.accepts_of_not_hasField hfield catalog.hardest
  rw [Bool.eq_iff_iff]
  simp only [List.mem_filter, mem_search_iff, hchart, true_and, decide_eq_true_eq, hhalves,
    Bool.and_eq_true, Bool.not_eq_true']
  cases hfield : c.hasField chart with
  | true => cases c.accepts chart catalog.hardest <;> simp
  | false => simp [hlacking hfield]

/-- An answer has no chart that both a condition and its opposite accept. -/
theorem not_mem_of_mem_opposite (catalog : Catalog) (query : Query) (hc : c.HasFiniteOperand)
    (hopposite : c.opposite? = some c') :
    ∀ chart ∈ (catalog.search query).filter (c.accepts · catalog.hardest),
      chart ∉ (catalog.search query).filter (c'.accepts · catalog.hardest) := by
  intro chart hchart hchart'
  obtain ⟨hmem, haccepts⟩ := List.mem_filter.mp hchart
  obtain ⟨-, haccepts'⟩ := List.mem_filter.mp hchart'
  rw [Condition.accepts_opposite hopposite hc (finite_of_mem_charts (List.mem_filter.mp hmem).1),
    haccepts] at haccepts'
  simp at haccepts'

/-- Whatever a condition is about, it and its opposite select from the answer to one
query. -/
theorem exists_common_base (catalog : Catalog) (hquery : query.conditions ≠ [])
    (hopposite : c.opposite? = some c') : ∃ base : Query,
      catalog.search (query.and c) =
        (catalog.search base).filter (c.accepts · catalog.hardest) ∧
      catalog.search (query.and c') =
        (catalog.search base).filter (c'.accepts · catalog.hardest) ∧
      (¬ c.IsAboutExcluded → base = query) ∧
      ∀ flag ∈ Flag.excludedByDefault, ∀ polarity, c = .flag ⟨flag, polarity⟩ →
        base = query.and (.flag ⟨flag, .allow⟩) := by
  by_cases habout : c.IsAboutExcluded
  · obtain ⟨flag, hflag, polarity, rfl⟩ := habout
    obtain ⟨polarity', rfl⟩ := Condition.exists_opposite_flag hopposite
    refine ⟨query.and (.flag ⟨flag, .allow⟩), catalog.search_and_flag query flag polarity,
      catalog.search_and_flag query flag polarity', fun h => ?_, fun flag' _ polarity' heq => ?_⟩
    · exact absurd ⟨flag, hflag, polarity, rfl⟩ h
    · cases heq
      rfl
  · have habout' : ¬ c'.IsAboutExcluded :=
      fun h => habout (Condition.isAboutExcluded_of_opposite hopposite h)
    refine ⟨query,
      catalog.search_and hquery (Condition.optsInto_of_not_isAboutExcluded habout query),
      catalog.search_and hquery (Condition.optsInto_of_not_isAboutExcluded habout' query),
      fun _ => rfl, fun flag hflag polarity heq => ?_⟩
    exact absurd ⟨flag, hflag, polarity, heq⟩ habout

/-- A clause and its opposite, added to a query that is not empty, have no chart in common.
Together they give the answer to the query without them, less the charts that lack the
field in question, which neither of the two finds. For a flag that is left out by default
they give the answer to the query that allows the flag. -/
theorem search_opposite (catalog : Catalog) (hquery : query.conditions ≠ [])
    (hc : c.HasFiniteOperand) (hopposite : c.opposite? = some c') :
    (∀ chart ∈ catalog.search (query.and c), chart ∉ catalog.search (query.and c')) ∧
    ((∀ flag ∈ [Flag.omnimix, .lively], ∀ polarity, c ≠ .flag ⟨flag, polarity⟩) →
      catalog.merged (catalog.search (query.and c)) (catalog.search (query.and c')) =
        (catalog.search query).filter c.hasField) ∧
    (∀ flag ∈ [Flag.omnimix, .lively], ∀ polarity, c = .flag ⟨flag, polarity⟩ →
      catalog.merged (catalog.search (query.and c)) (catalog.search (query.and c')) =
        catalog.search (query.and (.flag ⟨flag, .allow⟩))) ∧
    ∀ chart, c.hasField chart = false →
      chart ∉ catalog.search (query.and c) ∧ chart ∉ catalog.search (query.and c') := by
  obtain ⟨base, hleft, hright, hplain, hflag⟩ := exists_common_base catalog hquery hopposite
  rw [hleft, hright, catalog.merged_opposite base hc hopposite]
  refine ⟨catalog.not_mem_of_mem_opposite base hc hopposite, fun h => ?_,
    fun flag hmem polarity heq => ?_, fun chart hfield => ⟨fun hchart => ?_, fun hchart => ?_⟩⟩
  · rw [hplain]
    rintro ⟨flag, hmem, polarity, heq⟩
    exact h flag hmem polarity heq
  · rw [hflag flag hmem polarity heq, heq]
    exact List.filter_eq_self.mpr fun chart _ => rfl
  · have haccepts := (List.mem_filter.mp hchart).2
    rw [Condition.accepts_of_not_hasField hfield] at haccepts
    exact absurd haccepts (by decide)
  · obtain ⟨hmem, haccepts⟩ := List.mem_filter.mp hchart
    rw [Condition.accepts_opposite hopposite hc
      (finite_of_mem_charts (List.mem_filter.mp hmem).1), hfield] at haccepts
    exact absurd haccepts (by simp)

/-- A chart of level 40 that is rated. -/
def halfRatedChart : Chart :=
  (Chart.draft "1ex" "1" .extra 40).apply (.rating (.nearest false 1 2))

/-- A catalog of the rated chart, one without a rating, and one with a label that is left
out by default. -/
def ratedAndUnrated : Catalog :=
  ofFaultless [halfRatedChart, plainChart, omnimixChart] (by decide +kernel) (by decide)

/-- The chart without a rating is in the answer to `lv=40`, but neither of `rat!=0.5` and
`rat=0.5` finds it. -/
theorem search_opposite_unrated :
    (Condition.rating .ne (.nearest false 1 2)).opposite? =
        some (.rating .eq (.nearest false 1 2)) ∧
      plainChart ∈ ratedAndUnrated.search ⟨[.level .eq 40]⟩ ∧
      plainChart ∉ ratedAndUnrated.search
        (Query.and ⟨[.level .eq 40]⟩ (.rating .ne (.nearest false 1 2))) ∧
      plainChart ∉ ratedAndUnrated.search
        (Query.and ⟨[.level .eq 40]⟩ (.rating .eq (.nearest false 1 2))) := by
  have hopposite : (Condition.rating .ne (.nearest false 1 2)).opposite? =
      some (.rating .eq (.nearest false 1 2)) := rfl
  have hfinite : (Condition.rating .ne (.nearest false 1 2)).HasFiniteOperand := by
    show (Binary64.nearest false 1 2).isFinite = true
    decide +kernel
  obtain ⟨-, -, -, hlacking⟩ := search_opposite ratedAndUnrated
    (List.cons_ne_nil (.level .eq 40) []) hfinite hopposite
  have hmem : plainChart ∈ ratedAndUnrated.search ⟨[.level .eq 40]⟩ :=
    mem_search_iff.mpr ⟨List.mem_cons_of_mem _ List.mem_cons_self, rfl⟩
  exact ⟨hopposite, hmem, hlacking plainChart rfl⟩

end Catalog

end ChartCatalog
