import ChartCatalog.Proofs.Catalog.Build

/-!
# Looking up charts by id

An id is looked up without the blanks around it and without regard to the case
of ASCII letters, and the first chart that fits is the answer. The ids of a
catalog are distinct as they are written, which is less than a lookup asks for:
a chart is found by its own id exactly if the id has no blanks around it and no
earlier chart has the same id in other letter case, and all charts of a catalog
are found by their ids exactly if this holds of all of them (`find_ownId`).
-/

namespace ChartCatalog

open Text

/-! ## Texts with the same letters -/

namespace Text

theorem trim_sublist (s : List Char) : (trim s).Sublist s := by
  have hleft : (trimLeft s).Sublist s := List.dropWhile_sublist _
  have hright : (trim s).Sublist (trimLeft s) := by
    rw [← List.reverse_sublist, trim, trimRight, List.reverse_reverse]
    exact List.dropWhile_sublist _
  exact hright.trans hleft

theorem sameIgnoringCase_iff {s t : List Char} :
    sameIgnoringCase s t = true ↔ asciiLower s = asciiLower t :=
  beq_iff_eq

/-- Letter case apart, a text is its trimmed text only if there is nothing to trim:
trimming makes it shorter. -/
theorem sameIgnoringCase_trim_iff {s : List Char} :
    sameIgnoringCase s (trim s) = true ↔ trim s = s := by
  constructor
  · intro h
    have hlength : (trim s).length = s.length := by
      have hlower := congrArg List.length (sameIgnoringCase_iff.mp h)
      simpa [asciiLower] using hlower.symm
    exact (trim_sublist s).eq_of_length hlength
  · intro h
    rw [h]
    exact sameIgnoringCase_refl s

end Text

/-! ## Finding by id -/

namespace Catalog

variable {catalog : Catalog} {chart : Chart} {charts : List Chart}

theorem mem_of_find {id : String} (h : catalog.find id = some chart) :
    chart ∈ catalog.charts ∧ sameIgnoringCase chart.id.toList (trim id.toList) = true := by
  unfold find at h
  exact ⟨List.mem_of_find?_eq_some h, by simpa using List.find?_some h⟩

/-- The chart after the charts `before` in a catalog is found by its id if the id
fits itself and none of those before it fit. -/
theorem find_id_eq_some_iff {before after : List Chart}
    (h : catalog.charts = before ++ chart :: after) :
    catalog.find chart.id = some chart ↔ trim chart.id.toList = chart.id.toList ∧
      ∀ other ∈ before, sameIgnoringCase other.id.toList chart.id.toList = false := by
  constructor
  · intro hfind
    have htrim := sameIgnoringCase_trim_iff.mp (mem_of_find hfind).2
    rw [find, h, List.find?_append, htrim] at hfind
    refine ⟨htrim, fun other hother => ?_⟩
    cases hbefore : before.find? fun c => sameIgnoringCase c.id.toList chart.id.toList with
    | none => simpa using List.find?_eq_none.mp hbefore other hother
    | some found =>
      -- the answer would stand before the chart, and no id stands there twice
      rw [hbefore, Option.some_or, Option.some_inj] at hfind
      have hids := catalog.ids_nodup
      rw [h, List.map_append, List.map_cons, List.nodup_append] at hids
      have hmem := List.mem_map_of_mem (f := (·.id)) (List.mem_of_find?_eq_some hbefore)
      exact absurd (congrArg (·.id) hfind) (hids.2.2 _ hmem _ List.mem_cons_self)
  · rintro ⟨htrim, hbefore⟩
    have hnone : (before.find? fun c => sameIgnoringCase c.id.toList chart.id.toList) = none := by
      simpa using hbefore
    rw [find, h, htrim, List.find?_append, hnone, Option.none_or]
    exact List.find?_cons_of_pos (sameIgnoringCase_refl _)

theorem findAll_ids_eq_iff : catalog.findAll (charts.map (·.id)) = charts.map some ↔
    ∀ chart ∈ charts, catalog.find chart.id = some chart := by
  rw [findAll, List.map_map, List.map_inj_left]
  rfl

/-- All charts are found by their ids if no id has blanks around it and no two are
the same but for letter case. -/
theorem find_ids_iff : (∀ chart ∈ catalog.charts, catalog.find chart.id = some chart) ↔
    (∀ chart ∈ catalog.charts, trim chart.id.toList = chart.id.toList) ∧
      ∀ a ∈ catalog.charts, ∀ b ∈ catalog.charts,
        sameIgnoringCase a.id.toList b.id.toList = true → a = b := by
  constructor
  · intro h
    have htrim : ∀ chart ∈ catalog.charts, trim chart.id.toList = chart.id.toList :=
      fun chart hchart => sameIgnoringCase_trim_iff.mp (mem_of_find (h chart hchart)).2
    refine ⟨htrim, fun a ha b hb hsame => ?_⟩
    -- a lookup does not tell the two ids apart
    have hfind : catalog.find a.id = catalog.find b.id := by
      unfold find sameIgnoringCase
      rw [htrim a ha, htrim b hb, sameIgnoringCase_iff.mp hsame]
    rw [h a ha, h b hb] at hfind
    exact Option.some_inj.mp hfind
  · rintro ⟨htrim, hsame⟩ chart hchart
    cases hfind : catalog.find chart.id with
    | none =>
      have hnone := List.find?_eq_none.mp hfind chart hchart
      rw [htrim chart hchart] at hnone
      exact absurd (sameIgnoringCase_refl _) hnone
    | some found =>
      obtain ⟨hfound, hfits⟩ := mem_of_find hfind
      rw [htrim chart hchart] at hfits
      rw [hsame found hfound chart hchart hfits]

/-- What a lookup by id finds in a catalog: a chart whose id fits; by the id of a
chart the chart itself, exactly if that id has no blanks around it and fits no
earlier chart; and by the ids of all charts in any order those charts in that
order, exactly if no id has blanks around it and no two fit each other. -/
theorem find_ownId (h : ofCharts charts = .ok catalog) :
    (∀ id chart, catalog.find id = some chart →
      chart ∈ charts ∧ sameIgnoringCase chart.id.toList (trim id.toList) = true) ∧
    (∀ before chart after, charts = before ++ chart :: after →
      (catalog.find chart.id = some chart ↔ trim chart.id.toList = chart.id.toList ∧
        ∀ other ∈ before, sameIgnoringCase other.id.toList chart.id.toList = false)) ∧
    ((∀ order : List Chart, order.Perm charts →
        catalog.findAll (order.map (·.id)) = order.map some) ↔
      (∀ chart ∈ charts, trim chart.id.toList = chart.id.toList) ∧
        ∀ a ∈ charts, ∀ b ∈ charts,
          sameIgnoringCase a.id.toList b.id.toList = true → a = b) := by
  obtain rfl := charts_of_ofCharts h
  refine ⟨fun id chart => mem_of_find,
    fun before chart after hcharts => find_id_eq_some_iff hcharts, Iff.trans ?_ find_ids_iff⟩
  constructor
  · intro horder
    exact findAll_ids_eq_iff.mp (horder _ (List.Perm.refl _))
  · intro hfind order horder
    exact findAll_ids_eq_iff.mpr fun chart hchart => hfind chart (horder.subset hchart)

/-! ## Ids that a lookup does not tell apart -/

/-- A chart with an id in small letters. -/
def smallChart : Chart := .draft "1n" "1" .normal 20

/-- A chart with the same id in capitals. -/
def capitalChart : Chart := .draft "1N" "1" .hyper 30

/-- A chart with a blank before its id. -/
def indentedChart : Chart := .draft " 2h" "2" .hyper 30

/-- A catalog of the three. -/
def clashingCatalog : Catalog :=
  ofFaultless [smallChart, capitalChart, indentedChart] (by decide) (by decide)

theorem ofCharts_clashing :
    ofCharts [smallChart, capitalChart, indentedChart] = .ok clashingCatalog :=
  ofCharts_eq_ok _ _

/-- Of the three charts only the first is found by its id. -/
theorem find_ownId_clashing :
    ofCharts [smallChart, capitalChart, indentedChart] = .ok clashingCatalog ∧
    clashingCatalog.find smallChart.id = some smallChart ∧
    clashingCatalog.find capitalChart.id ≠ some capitalChart ∧
    clashingCatalog.find indentedChart.id ≠ some indentedChart := by
  have hfind := (find_ownId ofCharts_clashing).2.1
  refine ⟨ofCharts_clashing, (hfind [] smallChart _ rfl).mpr (by decide), ?_, ?_⟩
  · rw [ne_eq, hfind [smallChart] capitalChart _ rfl]
    decide
  · rw [ne_eq, hfind [smallChart, capitalChart] indentedChart _ rfl]
    decide

/-- Not every chart of a catalog is found by its id. -/
theorem find_id_ne_some : ¬ ∀ (charts : List Chart) (catalog : Catalog),
    ofCharts charts = .ok catalog → ∀ chart ∈ charts, catalog.find chart.id = some chart := by
  intro h
  have hfind : ∀ chart ∈ clashingCatalog.charts, clashingCatalog.find chart.id = some chart :=
    h _ _ ofCharts_clashing
  have hclash := (find_ids_iff.mp hfind).2 smallChart (by decide) capitalChart (by decide)
    (by decide)
  exact absurd hclash (by decide)

end Catalog

end ChartCatalog
