import ChartCatalog.Catalog

/-!
# Lists of charts that are catalogs

Charts without faults (`Chart.fault?_eq_none_iff`), no two with one id, are the
charts of a catalog (`ofFaultless`), and it is the one that is built from them
(`ofCharts_eq_ok`). No other list of charts makes a catalog (`ofCharts_eq_ok_iff`).
-/

namespace ChartCatalog

/-- A chart without faults has an id, a level in range and no rating but a finite
one. -/
theorem Chart.fault?_eq_none_iff {chart : Chart} : chart.fault? = none ↔
    chart.id ≠ "" ∧ lowestLevel ≤ chart.level ∧ chart.level ≤ highestLevel ∧
      ∀ rating ∈ chart.rating, rating.isFinite = true := by
  unfold fault?
  split
  next hid => simp [hid]
  next hid =>
    split
    next hlevel =>
      refine ⟨(nomatch ·), fun h => absurd ⟨h.2.1, h.2.2.1⟩ hlevel⟩
    next hlevel =>
      rw [Decidable.not_not] at hlevel
      cases hrating : chart.rating with
      | none => simp [hid, hlevel]
      | some rating => simp [hid, hlevel]

theorem Chart.checked_eq_ok_iff {chart chart' : Chart} :
    chart.checked = .ok chart' ↔ chart = chart' ∧ chart.fault? = none := by
  unfold checked
  cases chart.fault? with
  | none => simp
  | some fault => simp

theorem Chart.error_of_checked {chart : Chart} {e : CatalogError} (h : chart.checked = .error e) :
    ∃ fault, e = .invalidChart chart.id fault := by
  unfold checked at h
  cases hfault : chart.fault? with
  | none =>
    rw [hfault] at h
    exact absurd h (by simp)
  | some fault =>
    rw [hfault] at h
    exact ⟨fault, (Except.error.inj h).symm⟩

namespace Catalog

variable {charts : List Chart}

/-- The catalog of charts without faults and without repeated ids. -/
def ofFaultless (charts : List Chart) (hfault : ∀ chart ∈ charts, chart.fault? = none)
    (hids : (charts.map (·.id)).Nodup) : Catalog where
  charts := charts
  index := .ofCharts charts
  index_eq := HardestIndex.getElem?_ofCharts charts
  faultless := hfault
  ids_nodup := hids

theorem ofCharts_eq_ok (hfault : ∀ chart ∈ charts, chart.fault? = none)
    (hids : (charts.map (·.id)).Nodup) :
    ofCharts charts = .ok (ofFaultless charts hfault hids) := by
  have hnone : firstOffence? ∅ charts = none := by
    rw [firstOffence?_eq_none_iff]
    exact ⟨fun chart hc => ⟨hfault chart hc, Std.HashSet.contains_empty⟩, hids⟩
  unfold ofCharts
  split
  · rename_i h
    rw [hnone] at h
    exact absurd h (by simp)
  · rfl

theorem ofCharts_eq_ok_iff {catalog : Catalog} : ofCharts charts = .ok catalog ↔
    ∃ hfault hids, catalog = ofFaultless charts hfault hids := by
  constructor
  · intro h
    unfold ofCharts at h
    split at h
    · exact absurd h (by simp)
    · exact ⟨_, _, (Except.ok.inj h).symm⟩
  · rintro ⟨hfault, hids, rfl⟩
    exact ofCharts_eq_ok hfault hids

theorem exists_ofCharts_iff : (∃ catalog, ofCharts charts = .ok catalog) ↔
    (∀ chart ∈ charts, chart.fault? = none) ∧ (charts.map (·.id)).Nodup := by
  constructor
  · rintro ⟨catalog, h⟩
    obtain ⟨hfault, hids, -⟩ := ofCharts_eq_ok_iff.mp h
    exact ⟨hfault, hids⟩
  · rintro ⟨hfault, hids⟩
    exact ⟨_, ofCharts_eq_ok hfault hids⟩

theorem charts_of_ofCharts {catalog : Catalog} (h : ofCharts charts = .ok catalog) :
    catalog.charts = charts := by
  obtain ⟨_, _, rfl⟩ := ofCharts_eq_ok_iff.mp h
  rfl

end Catalog

end ChartCatalog
