import ChartCatalog.Proofs.Catalog.Meaning
import ChartCatalog.Proofs.Sampling.Shuffle

/-!
# Random samples of an answer

A sample of a list holds as many items as are wanted, or all of them if there are
fewer, each at most once (`IsSample`). All choices are made before the number wanted
comes in, so from one state of the random source a smaller sample is the start of a
larger one and leaves the source in the same state (`Chooser.sample_of_le`).

Sampling a catalog by a filter or by a selection is sampling the answer to the filter
or the selection. A filter that is refused makes no choices, and neither does a sample
of no charts nor a blank filter (`isSampler_catalog`).
-/

namespace ChartCatalog

open Text

variable {σ α ε : Type}

/-! ## Samples of a list -/

/-- What a sample of some items may be. -/
structure IsSample (items picked : List α) (count : Nat) : Prop where
  length_eq : picked.length = min count items.length
  nodup : picked.Nodup
  subset : picked ⊆ items
  perm : items.length ≤ count → picked.Perm items

namespace Chooser

variable {items : List α} {k count : Nat}

/-- The start of an order of the items is a sample of them. -/
theorem isSample_sample (chooser : Chooser σ) (h : items.Nodup) (count : Nat) (state : σ) :
    IsSample items (chooser.sample items count state).1 count := by
  have hperm : (chooser.shuffle items state).1.Perm items := by
    rw [shuffle_eq_ordered]
    exact ordered_perm _ _
  show IsSample items ((chooser.shuffle items state).1.take count) count
  constructor
  case length_eq => rw [List.length_take, hperm.length_eq]
  case nodup => exact (hperm.nodup_iff.mpr h).sublist (List.take_sublist _ _)
  case subset =>
    intro item hitem
    exact hperm.subset (List.mem_of_mem_take hitem)
  case perm =>
    intro hcount
    rwa [List.take_of_length_le (by rwa [hperm.length_eq])]

/-- The number wanted does not enter into the choices. -/
theorem sample_of_le (chooser : Chooser σ) (items : List α) (h : k ≤ count) (state : σ) :
    chooser.sample items k state = ((chooser.sample items count state).1.take k,
      (chooser.sample items count state).2) := by
  show ((chooser.shuffle items state).1.take k, (chooser.shuffle items state).2) =
    (((chooser.shuffle items state).1.take count).take k, (chooser.shuffle items state).2)
  rw [List.take_take, Nat.min_eq_left h]

end Chooser

/-! ## Sampling an answer -/

/-- Sampling what is answered, by a number and a state of the random source. A sample
of none and an error leave the source as it is. -/
structure IsSampler (answer : Except ε (List α)) (sample : Nat → σ → Except ε (List α) × σ) :
    Prop where
  none_wanted : ∀ state, sample 0 state = (.ok [], state)
  refused : ∀ e, answer = .error e → ∀ count, count ≠ 0 → ∀ state,
    sample count state = (.error e, state)
  sampled : ∀ found, answer = .ok found → ∀ count, count ≠ 0 → ∀ state,
    ∃ picked state', sample count state = (.ok picked, state') ∧ IsSample found picked count
  /-- A smaller sample is the start of a larger one, and the same choices are made. -/
  nested : ∀ k count, 1 ≤ k → k ≤ count → ∀ state picked state',
    sample count state = (.ok picked, state') → sample k state = (.ok (picked.take k), state')

/-- Of nothing there is one sample, and it takes no choices. -/
theorem isSampler_nil : IsSampler (.ok [] : Except ε (List α))
    fun _ (state : σ) => (.ok [], state) := by
  constructor
  case none_wanted => exact fun _ => rfl
  case refused => exact fun _ h => absurd h (by simp)
  case sampled =>
    intro found h count hcount state
    cases h
    exact ⟨[], state, rfl, by simp, List.nodup_nil, List.Subset.refl [],
      fun _ => List.Perm.refl []⟩
  case nested =>
    intro k count _ _ state picked state' hpicked
    cases hpicked
    rw [List.take_nil]

namespace Chooser

/-- A sample of what is answered, if any of it is wanted. -/
def sampleAnswer (chooser : Chooser σ) (answer : Except ε (List α)) (count : Nat) (state : σ) :
    Except ε (List α) × σ :=
  if count = 0 then ([], state).map .ok id
  else match answer with
    | .error e => (.error e, state)
    | .ok found => (chooser.sample found count state).map .ok id

variable {answer : Except ε (List α)} {found : List α} {count : Nat}

theorem sampleAnswer_error (chooser : Chooser σ) {e : ε} (h : answer = .error e)
    (hcount : count ≠ 0) (state : σ) :
    chooser.sampleAnswer answer count state = (.error e, state) := by
  rw [h, sampleAnswer, if_neg hcount]

theorem sampleAnswer_ok (chooser : Chooser σ) (h : answer = .ok found) (hcount : count ≠ 0)
    (state : σ) : chooser.sampleAnswer answer count state =
      (.ok (chooser.sample found count state).1, (chooser.sample found count state).2) := by
  rw [h, sampleAnswer, if_neg hcount]
  rfl

theorem isSampler_sampleAnswer (chooser : Chooser σ)
    (hnodup : ∀ found, answer = .ok found → found.Nodup) :
    IsSampler answer (chooser.sampleAnswer answer) := by
  constructor
  case none_wanted =>
    intro state
    exact if_pos rfl
  case refused =>
    intro e h count hcount state
    exact chooser.sampleAnswer_error h hcount state
  case sampled =>
    intro found h count hcount state
    refine ⟨_, _, chooser.sampleAnswer_ok h hcount state, ?_⟩
    exact chooser.isSample_sample (hnodup found h) count state
  case nested =>
    intro k count hk hle state picked state' hpicked
    cases h : answer with
    | error e =>
      rw [chooser.sampleAnswer_error h (by omega)] at hpicked
      exact absurd hpicked (by simp)
    | ok found =>
      rw [chooser.sampleAnswer_ok h (by omega)] at hpicked
      obtain ⟨hitems, rfl⟩ := Prod.mk.inj hpicked
      rw [chooser.sampleAnswer_ok rfl (by omega), ← Except.ok.inj hitems,
        chooser.sample_of_le found hle]

end Chooser

/-! ## Sampling a catalog -/

namespace Catalog

variable {catalog : Catalog} {filter : String} {found : List Chart} {count : Nat}

theorem sampleFilter_of_isBlankText (chooser : Chooser σ)
    (hblank : isBlankText filter.toList = true) (count : Nat) (state : σ) :
    catalog.sampleFilter chooser count filter state = (.ok [], state) :=
  if_pos (.inr hblank)

theorem sampleFilter_eq_sampleAnswer (catalog : Catalog) (chooser : Chooser σ)
    (hblank : isBlankText filter.toList = false) :
    (fun count => catalog.sampleFilter chooser count filter) =
      chooser.sampleAnswer (catalog.query filter) := by
  funext count state
  unfold sampleFilter Chooser.sampleAnswer
  by_cases hcount : count = 0
  · rw [if_pos (.inl hcount), if_pos hcount]
    rfl
  · have hwanted : ¬ (count = 0 ∨ isBlankText filter.toList = true) := by simp [hcount, hblank]
    rw [if_neg hwanted, if_neg hcount]
    cases catalog.query filter with
    | error e => rfl
    | ok found => rfl

theorem sampleSelection_eq_sampleAnswer (catalog : Catalog) (chooser : Chooser σ)
    (selection : Selection) :
    (fun count state => (catalog.sampleSelection chooser count selection state).map .ok id) =
      chooser.sampleAnswer (.ok (catalog.select selection) : Except ε (List Chart)) := by
  funext count state
  unfold sampleSelection Chooser.sampleAnswer
  by_cases hcount : count = 0
  · rw [if_pos hcount, if_pos hcount]
  · rw [if_neg hcount, if_neg hcount]

/-- A blank filter has no clauses: no comma is a blank. -/
theorem clauses_of_isBlankText (h : isBlankText filter.toList = true) :
    Query.clauses filter = [] := by
  have hcomma : Query.separator ∉ filter.toList := by
    intro hmem
    have hblank := List.all_eq_true.mp h _ hmem
    exact absurd hblank (by decide)
  rw [Query.clauses, Query.splitOn_of_not_mem hcomma]
  simp [h]

theorem search_nodup (catalog : Catalog) (query : Query) : (catalog.search query).Nodup :=
  catalog.charts_nodup.filter _

/-- Sampling a catalog by a filter, whatever the random source, is sampling the answer
to the filter: nothing is read and nothing chosen if no chart is wanted or the filter
is blank; a filter that is refused makes no choices; and else the sample holds as many
of the charts answered as are wanted and there are, each once, in an order of which
smaller samples are the start. Sampling by a selection is the same, and is never
refused. -/
theorem isSampler_catalog (catalog : Catalog) (chooser : Chooser σ) :
    (∀ filter,
      IsSampler (catalog.query filter)
        (fun count state => catalog.sampleFilter chooser count filter state) ∧
      ((∀ c ∈ filter.toList, isBlank c = true) → ∀ count state,
        catalog.sampleFilter chooser count filter state = (.ok [], state))) ∧
    ∀ selection,
      IsSampler (.ok (catalog.select selection) : Except CatalogError (List Chart))
        (fun count state => (.ok (catalog.sampleSelection chooser count selection state).1,
          (catalog.sampleSelection chooser count selection state).2)) := by
  refine ⟨fun filter => ⟨?_, fun hblank => ?_⟩, fun selection => ?_⟩
  · cases hblank : isBlankText filter.toList with
    | false =>
      rw [catalog.sampleFilter_eq_sampleAnswer chooser hblank]
      apply chooser.isSampler_sampleAnswer
      intro found h
      obtain ⟨query, -, rfl⟩ := query_eq_ok_iff.mp h
      exact catalog.search_nodup query
    | true =>
      -- nothing is answered either
      have hnothing : (fun count (state : σ) =>
          catalog.sampleFilter chooser count filter state) = fun _ state => (.ok [], state) := by
        funext count state
        exact sampleFilter_of_isBlankText chooser hblank count state
      rw [hnothing, catalog.query_of_clauses_eq_nil (clauses_of_isBlankText hblank)]
      exact isSampler_nil
  · exact sampleFilter_of_isBlankText chooser (List.all_eq_true.mpr hblank)
  · show IsSampler _ fun count state =>
      (catalog.sampleSelection chooser count selection state).map .ok id
    rw [catalog.sampleSelection_eq_sampleAnswer chooser selection]
    apply chooser.isSampler_sampleAnswer
    intro found h
    rw [← Except.ok.inj h]
    exact catalog.search_nodup _

/-- Three charts of level 40 and one of level 20. -/
def fourCharts : Catalog :=
  ofFaultless [.draft "1h" "1" .hyper 40, .draft "1n" "1" .normal 20, .draft "2h" "2" .hyper 40,
    .draft "3h" "3" .hyper 40] (by decide) (by decide)

/-- A source that always gives out zero and counts what it has given out. -/
def zeros : Chooser Nat := ⟨fun last given => (⟨0, Nat.succ_pos last⟩, given + 1)⟩

/-- Three charts of level 40 take two choices, and one of them takes the same two. A
blank filter and a filter that is refused take none. -/
theorem sampleFilter_fourCharts :
    fourCharts.sampleFilter zeros 3 "lv=40" 0 =
      (.ok [.draft "2h" "2" .hyper 40, .draft "3h" "3" .hyper 40, .draft "1h" "1" .hyper 40], 2) ∧
    fourCharts.sampleFilter zeros 1 "lv=40" 0 = (.ok [.draft "2h" "2" .hyper 40], 2) ∧
    fourCharts.sampleFilter zeros 3 "  " 0 = (.ok [], 0) ∧
    ∃ e, fourCharts.sampleFilter zeros 3 "lv=" 0 = (.error e, 0) := by
  have hthree : fourCharts.sampleFilter zeros 3 "lv=40" 0 =
      (.ok [.draft "2h" "2" .hyper 40, .draft "3h" "3" .hyper 40, .draft "1h" "1" .hyper 40],
        2) := by
    decide +kernel
  obtain ⟨hfilter, -⟩ := isSampler_catalog fourCharts zeros
  have hrefused : ∃ e, fourCharts.query "lv=" = .error e :=
    ⟨.invalidCondition "lv=" ["lv", "="], by decide +kernel⟩
  obtain ⟨e, he⟩ := hrefused
  refine ⟨hthree, ?_, (hfilter "  ").2 (forall_mem_of_all (by decide)) 3 0, e, ?_⟩
  · exact (hfilter "lv=40").1.nested 1 3 (by decide) (by decide) 0 _ 2 hthree
  · exact (hfilter "lv=").1.refused e he 3 (by decide) 0

end Catalog

end ChartCatalog
