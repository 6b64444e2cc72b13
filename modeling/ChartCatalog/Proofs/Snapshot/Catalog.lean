import ChartCatalog.Proofs.Catalog.FirstOffence
import ChartCatalog.Proofs.Chart.Edits
import ChartCatalog.Proofs.Snapshot.Charts

/-!
# From a snapshot to a catalog

Reading a snapshot checks every chart on its own. Every chart of a snapshot passes the check
that a catalog makes again, and it is in folders that exist, each once (`Entry.fit_of_toChart`).
What is left to go wrong is between charts: the charts of a snapshot make a catalog unless two
of its entries have one id (`charts_fit`).
-/

namespace ChartCatalog.Snapshot

open Catalog

/-- A chart that passes its check and is in folders that exist, in none of them twice. -/
structure Fit (chart : Chart) : Prop where
  checked : chart.checked = .ok chart
  folders_nodup : chart.folders.Nodup
  folders_exist : ∀ folder ∈ chart.folders, folder.Exists

variable {document : String} {charts : List Chart} {entries : List Entry}

/-! ## The charts on their own -/

theorem Entry.fit_of_toChart {entry : Entry} {chart : Chart} (h : entry.toChart = .ok chart) :
    Fit chart := by
  obtain ⟨hdescribes, hfault⟩ := Entry.toChart_eq_ok_iff.mp h
  obtain ⟨folders, hfolders, hdistinct⟩ := hdescribes.folders
  rw [← distinct_eq_eraseDups] at hdistinct
  refine ⟨Chart.checked_eq_ok_iff.mpr ⟨rfl, hfault⟩, ?_, fun folder hfolder => ?_⟩
  · rw [hdistinct]
    exact nodup_distinct folders
  · rw [hdistinct, mem_distinct] at hfolder
    obtain ⟨tag, -, htag⟩ := exists_of_forall₂_right hfolders hfolder
    exact Folder.exists_of_ofTag? htag

/-- A snapshot with charts has an entry for each of them. -/
theorem parse_eq_ok_iff_forall₂ : parse document = .ok charts ↔
    ∃ entries, HasEntries document entries ∧
      List.Forall₂ (fun entry chart => entry.toChart = .ok chart) entries charts := by
  constructor
  · intro h
    have hentries : ∃ entries, HasEntries document entries := by
      by_contra hnone
      rw [parse_of_not_hasEntries (not_exists.mp hnone)] at h
      exact absurd h (by simp)
    obtain ⟨entries, hentries⟩ := hentries
    rw [parse_of_hasEntries hentries, mapM_eq_ok_iff_forall₂] at h
    exact ⟨entries, hentries, h⟩
  · rintro ⟨entries, hentries, h⟩
    rw [parse_of_hasEntries hentries, mapM_eq_ok_iff_forall₂]
    exact h

theorem ids_eq_of_forall₂
    (h : List.Forall₂ (fun entry chart => Entry.toChart entry = .ok chart) entries charts) :
    charts.map (·.id) = entries.map (·.id) := by
  induction h with
  | nil => rfl
  | cons hchart _ ih =>
    obtain ⟨hdescribes, -⟩ := Entry.toChart_eq_ok_iff.mp hchart
    rw [List.map_cons, List.map_cons, hdescribes.id_eq, ih]

/-! ## The charts together -/

/-- Charts that pass their check make a catalog unless two have one id. -/
theorem exists_error_ofCharts_iff (h : ∀ chart ∈ charts, Fit chart) :
    (∃ e, ofCharts charts = .error e) ↔ ¬ (charts.map (·.id)).Nodup := by
  have hfault : ∀ chart ∈ charts, chart.fault? = none := by
    intro chart hchart
    exact (Chart.checked_eq_ok_iff.mp (h chart hchart).checked).2
  have hcatalog : (∃ catalog, ofCharts charts = .ok catalog) ↔ (charts.map (·.id)).Nodup :=
    exists_ofCharts_iff.trans (and_iff_right hfault)
  rw [← hcatalog]
  cases ofCharts charts <;> simp

/-- The only offence among charts that pass their check is an id that is a duplicate. -/
theorem duplicate_of_ofCharts (h : ∀ chart ∈ charts, Fit chart) {e : CatalogError}
    (herror : ofCharts charts = .error e) : ∃ chart ∈ charts, e = .duplicateChartId chart.id := by
  obtain ⟨chart, hchart, rfl⟩ := exists_offence_of_ofCharts herror
  rcases chart.offence_cases with hchecked | ⟨-, hduplicate⟩
  · rw [(h chart hchart).checked] at hchecked
    exact absurd hchecked (by simp)
  · exact ⟨chart, hchart, hduplicate⟩

/-- The charts of a snapshot are fit for a catalog: each passes its check and is in folders
that exist, in none of them twice. They make a catalog unless two entries of the snapshot have
one id, and that is then the error. More generally, the charts put together from a draft that
pass the check are exactly those that pass it and are in no folder twice. -/
theorem charts_fit :
    (∀ document charts, parse document = .ok charts →
      (∀ chart ∈ charts, Fit chart) ∧
      (∀ e, ofCharts charts = .error e → ∃ chart ∈ charts, e = .duplicateChartId chart.id) ∧
      ∃ entries, HasEntries document entries ∧
        ((∃ e, ofCharts charts = .error e) ↔ ¬ (entries.map (·.id)).Nodup)) ∧
    ∀ chart : Chart, (∃ id songId difficulty level edits,
        ((Chart.draft id songId difficulty level).applyAll edits).checked = .ok chart) ↔
      chart.checked = .ok chart ∧ chart.folders.Nodup := by
  refine ⟨fun document charts h => ?_, fun chart => Chart.exists_edits_iff⟩
  obtain ⟨entries, hentries, hcharts⟩ := parse_eq_ok_iff_forall₂.mp h
  have hfit : ∀ chart ∈ charts, Fit chart := by
    intro chart hchart
    obtain ⟨entry, -, hentry⟩ := exists_of_forall₂_right hcharts hchart
    exact Entry.fit_of_toChart hentry
  refine ⟨hfit, fun e => duplicate_of_ofCharts hfit, entries, hentries, ?_⟩
  rw [exists_error_ofCharts_iff hfit, ids_eq_of_forall₂ hcharts]

/-- The chart of `soundItem`. -/
def soundChart : Chart :=
  (Chart.draft "7n" "7" .normal 15).applyAll
    [.folder (.version 10), .folder (.version 5), .folder (.version 10), .label "eemall"]

/-- A snapshot with one item twice. -/
def repeatedItem : String := "[" ++ soundItem ++ "," ++ soundItem ++ "]"

theorem charts_fit_repeatedItem :
    parse repeatedItem = .ok [soundChart, soundChart] ∧ Fit soundChart ∧
      ofCharts [soundChart, soundChart] = .error (.duplicateChartId "7n") := by
  have hread : entries? repeatedItem = some [soundEntry, soundEntry] := by decide +kernel
  have hparse : parse repeatedItem = .ok [soundChart, soundChart] := by
    rw [parse_of_hasEntries (entries?_eq_some_iff.mp hread)]
    decide +kernel
  obtain ⟨hfit, honly, entries, hentries, hids⟩ := charts_fit.1 _ _ hparse
  have hsame : entries = [soundEntry, soundEntry] := by
    rw [entries?_eq_some_iff.mpr hentries] at hread
    exact Option.some.inj hread
  obtain ⟨e, herror⟩ := hids.mpr (by rw [hsame]; decide)
  obtain ⟨chart, hchart, rfl⟩ := honly e herror
  have hsound : chart = soundChart := by simpa using hchart
  rw [hsound] at herror
  exact ⟨hparse, hfit soundChart List.mem_cons_self, herror⟩

end ChartCatalog.Snapshot
