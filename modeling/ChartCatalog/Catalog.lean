import ChartCatalog.Sampling
import ChartCatalog.Selection.Basic
import ChartCatalog.Text.AsciiCase
import Std.Data.HashMap
import Std.Data.HashSet

/-!
# Catalogs

A catalog is a list of charts without faults and without repeated ids, together
with an index of the highest difficulty of every song. `Catalog.ofCharts` builds
one or names the first offence. The index answers what a scan of the charts
would (`Catalog.index_eq`), so a catalog and its list of charts are the same
context for a filter.

Every question is a scan in catalog order: `find` looks up an id, `search`,
`query` and `select` list the charts that a query, a filter or a selection
accepts, and `sampleFilter` and `sampleSelection` pick some of them at random.
-/

namespace ChartCatalog

open Text

/-! ## The index of the hardest charts -/

/-- An index from song ids to difficulties. -/
abbrev HardestIndex := Std.HashMap String Difficulty

/-- The index with one more chart. -/
def HardestIndex.note (index : HardestIndex) (chart : Chart) : HardestIndex :=
  index.insert chart.songId
    (match index[chart.songId]? with
     | some d => max d chart.difficulty
     | none => chart.difficulty)

/-- The index of a list of charts. -/
def HardestIndex.ofCharts (charts : List Chart) : HardestIndex := charts.foldl note ∅

theorem HardestIndex.getElem?_foldl_note (charts : List Chart) (index : HardestIndex)
    (songId : String) :
    (charts.foldl note index)[songId]? =
      match index[songId]? with
      | none => hardestAmong charts songId
      | some d => some
          (((charts.filter (·.songId = songId)).map (·.difficulty)).foldl max d) := by
  induction charts generalizing index with
  | nil => cases h : index[songId]? <;> simp [hardestAmong, h]
  | cons chart charts ih =>
    rw [List.foldl_cons, ih]
    by_cases hs : chart.songId = songId
    · -- a chart of the song: its difficulty joins the maximum
      subst hs
      cases h : index[chart.songId]? <;>
        simp [note, h, hardestAmong, List.max?_cons']
    · -- a chart of another song leaves the entry alone
      have hs' : (chart.songId == songId) = false := by simp [hs]
      simp [note, hs, hs', Std.HashMap.getElem?_insert, hardestAmong]

/-- Looking up the index is scanning the charts. -/
theorem HardestIndex.getElem?_ofCharts (charts : List Chart) (songId : String) :
    (ofCharts charts)[songId]? = hardestAmong charts songId := by
  simp [ofCharts, getElem?_foldl_note]

/-! ## Offences -/

/-- The first offence in a list of charts, where `seen` holds the ids of the
charts before it: a chart with a fault, or with an id seen before. A chart's own
fault comes first. -/
def firstOffence? (seen : Std.HashSet String) : List Chart → Option CatalogError
  | [] => none
  | chart :: charts =>
    match chart.fault? with
    | some fault => some (.invalidChart chart.id fault)
    | none =>
      if seen.contains chart.id then some (.duplicateChartId chart.id)
      else firstOffence? (seen.insert chart.id) charts

theorem firstOffence?_eq_none_iff {seen : Std.HashSet String} {charts : List Chart} :
    firstOffence? seen charts = none ↔
      (∀ chart ∈ charts, chart.fault? = none ∧ seen.contains chart.id = false) ∧
        (charts.map (·.id)).Nodup := by
  induction charts generalizing seen with
  | nil => simp [firstOffence?]
  | cons chart charts ih =>
    unfold firstOffence?
    cases hf : chart.fault? with
    | some fault =>
      -- the first chart has a fault of its own
      refine ⟨(nomatch ·), fun h => ?_⟩
      have := (h.1 chart List.mem_cons_self).1
      rw [hf] at this
      cases this
    | none =>
      cases hs : seen.contains chart.id with
      | true =>
        -- its id was seen before
        refine ⟨(nomatch ·), fun h => ?_⟩
        have := (h.1 chart List.mem_cons_self).2
        rw [hs] at this
        cases this
      | false =>
        -- it passes, and its id counts as seen from here on
        simp only [Bool.false_eq_true, if_false, ih, Std.HashSet.contains_insert,
          Bool.or_eq_false_iff, beq_eq_false_iff_ne, List.map_cons, List.nodup_cons,
          List.mem_map, not_exists, not_and]
        constructor
        · rintro ⟨h1, h2⟩
          refine ⟨fun c hc => ?_, fun c hc e => (h1 c hc).2.1 e.symm, h2⟩
          rcases List.mem_cons.mp hc with rfl | hc
          · exact ⟨hf, hs⟩
          · exact ⟨(h1 c hc).1, (h1 c hc).2.2⟩
        · rintro ⟨h1, h2, h3⟩
          refine ⟨fun c hc => ?_, h3⟩
          have := h1 c (List.mem_cons_of_mem _ hc)
          exact ⟨this.1, fun e => h2 c hc e.symm, this.2⟩

/-! ## Catalogs -/

/-- A list of charts that belong together, with the index of its songs. -/
structure Catalog where
  charts : List Chart
  index : HardestIndex
  index_eq : ∀ songId, index[songId]? = hardestAmong charts songId
  faultless : ∀ chart ∈ charts, chart.fault? = none
  ids_nodup : (charts.map (·.id)).Nodup

namespace Catalog

/-- The catalog of a list of charts, or the first offence in the list. -/
def ofCharts (charts : List Chart) : Except CatalogError Catalog :=
  match h : firstOffence? ∅ charts with
  | some offence => .error offence
  | none => .ok {
      charts := charts
      index := .ofCharts charts
      index_eq := HardestIndex.getElem?_ofCharts charts
      faultless := fun chart hc => ((firstOffence?_eq_none_iff.mp h).1 chart hc).1
      ids_nodup := (firstOffence?_eq_none_iff.mp h).2 }

/-- The highest difficulty of a song, from the index. -/
def hardest (catalog : Catalog) : HardestOf := fun songId => catalog.index[songId]?

theorem hardest_eq (catalog : Catalog) : catalog.hardest = hardestAmong catalog.charts :=
  funext catalog.index_eq

/-! ## Looking up -/

/-- The first chart with the id, without regard to the case of ASCII letters and
to blanks around the id that is asked for. -/
def find (catalog : Catalog) (id : String) : Option Chart :=
  catalog.charts.find? fun chart => sameIgnoringCase chart.id.toList (trim id.toList)

/-- The charts with the ids, in the order of the ids. -/
def findAll (catalog : Catalog) (ids : List String) : List (Option Chart) :=
  ids.map catalog.find

/-! ## Filtering -/

/-- The charts that a query accepts, its exclusions included. -/
def search (catalog : Catalog) (query : Query) : List Chart :=
  catalog.charts.filter (query.effective.accepts · catalog.hardest)

/-- The charts that a filter accepts. -/
def query (catalog : Catalog) (filter : String) : Except CatalogError (List Chart) :=
  (Query.parse filter).map catalog.search

/-- The charts that a selection accepts. -/
def select (catalog : Catalog) (selection : Selection) : List Chart :=
  catalog.search selection.toQuery

/-! ## Sampling -/

variable {σ : Type}

/-- Up to `count` random charts that the filter accepts. No choice is made, and
the filter is not even read, if no chart is wanted or the filter is blank. -/
def sampleFilter (catalog : Catalog) (chooser : Chooser σ) (count : Nat) (filter : String)
    (state : σ) : Except CatalogError (List Chart) × σ :=
  if count = 0 ∨ isBlankText filter.toList then (.ok [], state)
  else match catalog.query filter with
    | .error e => (.error e, state)
    | .ok matched =>
      let (picked, state) := chooser.sample matched count state
      (.ok picked, state)

/-- Up to `count` random charts that the selection accepts. -/
def sampleSelection (catalog : Catalog) (chooser : Chooser σ) (count : Nat)
    (selection : Selection) (state : σ) : List Chart × σ :=
  if count = 0 then ([], state)
  else chooser.sample (catalog.select selection) count state

end Catalog

end ChartCatalog
