import ChartCatalog.Proofs.Catalog.Build
import Mathlib.Data.List.TakeDrop
import Mathlib.Data.Nat.Find

/-!
# The first offence in a list of charts

A chart in a list offends if it has a fault or repeats the id of an earlier chart
(`OffendsAt`). The charts are checked in one pass that keeps a set of the ids it has seen.
After any charts that pass, the set holds the ids of just these charts
(`exists_seen_append`), so the pass stops at the first place with an offence and says what is
wrong there (`firstOffence?_of_offendsAt`). Without an offence the charts make a catalog, and
a catalog is made of faultless charts with ids of their own (`ofCharts_firstOffence`).
-/

namespace ChartCatalog

/-! ## Offences by place -/

/-- The chart at the place has a fault, or an earlier chart has its id. -/
def OffendsAt (charts : List Chart) (i : Nat) : Prop :=
  ∃ chart, charts[i]? = some chart ∧
    (chart.fault? ≠ none ∨ ∃ earlier ∈ charts.take i, earlier.id = chart.id)

instance (charts : List Chart) (i : Nat) : Decidable (OffendsAt charts i) :=
  match hchart : charts[i]? with
  | none => isFalse fun ⟨_, h, _⟩ => absurd (hchart.symm.trans h) (by simp)
  | some chart =>
    decidable_of_iff (chart.fault? ≠ none ∨ ∃ earlier ∈ charts.take i, earlier.id = chart.id)
      (by simp [OffendsAt, hchart])

/-- What is wrong with an offending chart: its own fault, if it has one. -/
def Chart.offence (chart : Chart) : CatalogError :=
  match chart.fault? with
  | some fault => .invalidChart chart.id fault
  | none => .duplicateChartId chart.id

/-- The offence of a chart is the error of its own check; only if the chart passes the check
is it that the id is a duplicate. -/
theorem Chart.offence_cases (chart : Chart) :
    chart.checked = .error chart.offence ∨
      chart.checked = .ok chart ∧ chart.offence = .duplicateChartId chart.id := by
  unfold checked offence
  cases chart.fault? with
  | some fault => exact .inl rfl
  | none => exact .inr ⟨rfl, rfl⟩

variable {charts : List Chart} {chart : Chart} {i k : Nat}

theorem passes_of_not_offendsAt (h : ¬ OffendsAt charts i) (hchart : charts[i]? = some chart) :
    chart.fault? = none ∧ chart.id ∉ (charts.take i).map (·.id) := by
  constructor
  · by_contra hfault
    exact h ⟨chart, hchart, .inl hfault⟩
  · intro hmem
    obtain ⟨earlier, hearlier, hid⟩ := List.mem_map.mp hmem
    exact h ⟨chart, hchart, .inr ⟨earlier, hearlier, hid⟩⟩

/-- No chart offends exactly if none has a fault and no two have one id. -/
theorem forall_not_offendsAt_iff : (∀ i, ¬ OffendsAt charts i) ↔
    (∀ chart ∈ charts, chart.fault? = none) ∧ (charts.map (·.id)).Nodup := by
  constructor
  · intro h
    constructor
    · intro chart hchart
      obtain ⟨i, hi⟩ := List.mem_iff_getElem?.mp hchart
      exact (passes_of_not_offendsAt (h i) hi).1
    · rw [List.nodup_iff_pairwise_ne, List.pairwise_iff_getElem]
      intro i j hi hj hlt hid
      rw [List.length_map] at hi hj
      have hj' : charts[j]? = some charts[j] := List.getElem?_eq_getElem hj
      apply (passes_of_not_offendsAt (h j) hj').2
      rw [List.getElem_map, List.getElem_map] at hid
      rw [← hid]
      exact List.mem_map_of_mem (List.mem_take_iff_getElem.mpr ⟨i, by omega, rfl⟩)
  · rintro ⟨hfault, hids⟩ i ⟨chart, hchart, hoffence⟩
    obtain ⟨hi, rfl⟩ := List.getElem?_eq_some_iff.mp hchart
    rcases hoffence with hne | ⟨earlier, hearlier, hid⟩
    · exact hne (hfault _ (List.getElem_mem hi))
    · obtain ⟨j, hj, rfl⟩ := List.mem_take_iff_getElem.mp hearlier
      rw [List.nodup_iff_pairwise_ne, List.pairwise_iff_getElem] at hids
      have hne := hids j i (by rw [List.length_map]; omega) (by rw [List.length_map]; omega)
        (by omega)
      rw [List.getElem_map, List.getElem_map] at hne
      exact hne hid

/-- The places before `k` are those of the first `k` charts. -/
theorem offendsAt_take_iff : OffendsAt (charts.take k) i ↔ i < k ∧ OffendsAt charts i := by
  unfold OffendsAt
  by_cases hik : i < k
  · rw [List.getElem?_take_of_lt hik, List.take_take, Nat.min_eq_left (Nat.le_of_lt hik)]
    simp [hik]
  · rw [List.getElem?_take_eq_none (Nat.not_lt.mp hik)]
    simp [hik]

/-! ## The pass over the charts -/

/-- A chart that passes is counted among the charts seen. -/
theorem firstOffence?_cons {seen : Std.HashSet String} (hfault : chart.fault? = none)
    (hseen : seen.contains chart.id = false) (rest : List Chart) :
    firstOffence? seen (chart :: rest) = firstOffence? (seen.insert chart.id) rest := by
  simp [firstOffence?, hfault, hseen]

/-- After charts that pass, the ids that count as seen are theirs and those seen before. -/
theorem exists_seen_append {seen : Std.HashSet String} {before : List Chart}
    (h : firstOffence? seen before = none) (rest : List Chart) :
    ∃ seen' : Std.HashSet String,
      firstOffence? seen (before ++ rest) = firstOffence? seen' rest ∧
      ∀ id, seen'.contains id = true ↔ seen.contains id = true ∨ id ∈ before.map (·.id) := by
  induction before generalizing seen with
  | nil => exact ⟨seen, rfl, by simp⟩
  | cons chart before ih =>
    obtain ⟨hcharts, -⟩ := firstOffence?_eq_none_iff.mp h
    obtain ⟨hfault, hseen⟩ := hcharts chart List.mem_cons_self
    rw [firstOffence?_cons hfault hseen] at h
    obtain ⟨seen', hrest, hids⟩ := ih h
    refine ⟨seen', ?_, fun id => ?_⟩
    · rw [List.cons_append, firstOffence?_cons hfault hseen, hrest]
    · rw [hids, Std.HashSet.contains_insert, Bool.or_eq_true, beq_iff_eq, List.map_cons,
        List.mem_cons, eq_comm (a := id), or_assoc, or_left_comm]

/-- The pass stops at the first place with an offence. -/
theorem firstOffence?_of_offendsAt (hoffends : OffendsAt charts i)
    (hfirst : ∀ j < i, ¬ OffendsAt charts j) (hchart : charts[i]? = some chart) :
    firstOffence? ∅ charts = some chart.offence := by
  -- the charts before the place pass
  have hbefore : firstOffence? ∅ (charts.take i) = none := by
    have hnone : ∀ j, ¬ OffendsAt (charts.take i) j := by
      intro j hj
      obtain ⟨hlt, hoffends⟩ := offendsAt_take_iff.mp hj
      exact hfirst j hlt hoffends
    obtain ⟨hfault, hids⟩ := forall_not_offendsAt_iff.mp hnone
    rw [firstOffence?_eq_none_iff]
    exact ⟨fun earlier hearlier => ⟨hfault earlier hearlier, Std.HashSet.contains_empty⟩, hids⟩
  obtain ⟨seen, hpass, hids⟩ := exists_seen_append hbefore (charts.drop i)
  obtain ⟨hlt, hget⟩ := List.getElem?_eq_some_iff.mp hchart
  rw [List.take_append_drop, List.drop_eq_getElem_cons hlt, hget] at hpass
  rw [hpass]
  obtain ⟨chart', hchart', hoffence⟩ := hoffends
  obtain rfl : chart' = chart := Option.some.inj (hchart'.symm.trans hchart)
  cases hfault : chart'.fault? with
  | some fault => simp [firstOffence?, Chart.offence, hfault]
  | none =>
    -- so the offence is an earlier chart with its id
    have hseen : seen.contains chart'.id = true := by
      obtain ⟨earlier, hearlier, hid⟩ := hoffence.resolve_left (fun hne => hne hfault)
      rw [hids, ← hid]
      exact .inr (List.mem_map_of_mem hearlier)
    simp [firstOffence?, Chart.offence, hfault, hseen]

namespace Catalog

theorem ofCharts_of_firstOffence? {e : CatalogError} (h : firstOffence? ∅ charts = some e) :
    ofCharts charts = .error e := by
  unfold ofCharts
  split
  next e' h' => rw [Option.some.inj (h'.symm.trans h)]
  next h' => exact absurd (h'.symm.trans h) (by simp)

/-- If charts make no catalog, the error is the offence of one of them. -/
theorem exists_offence_of_ofCharts {e : CatalogError} (h : ofCharts charts = .error e) :
    ∃ chart ∈ charts, e = chart.offence := by
  have hoffends : ∃ i, OffendsAt charts i := by
    by_contra hnone
    obtain ⟨hfault, hids⟩ := forall_not_offendsAt_iff.mp (not_exists.mp hnone)
    rw [ofCharts_eq_ok hfault hids] at h
    exact absurd h (by simp)
  obtain ⟨chart, hchart, -⟩ := Nat.find_spec hoffends
  refine ⟨chart, List.mem_of_getElem? hchart, ?_⟩
  have herror := ofCharts_of_firstOffence? (firstOffence?_of_offendsAt (Nat.find_spec hoffends)
    (fun _ => Nat.find_min hoffends) hchart)
  exact Except.error.inj (h.symm.trans herror)

/-- A list of charts without an offence makes a catalog of just these charts: every chart has
an id, a level in range and no rating but a finite one, and no two charts have one id. In any
other list the first chart that offends decides: the error is that of its own check, or, if
it passes the check, that its id is a duplicate. -/
theorem ofCharts_firstOffence (charts : List Chart) :
    ((∀ i, ¬ OffendsAt charts i) →
      ∃ catalog, ofCharts charts = .ok catalog ∧ catalog.charts = charts ∧
        (∀ chart ∈ catalog.charts, chart.id ≠ "" ∧ 1 ≤ chart.level ∧ chart.level ≤ 50 ∧
          ∀ rating ∈ chart.rating, rating.isFinite = true) ∧
        (catalog.charts.map (·.id)).Nodup) ∧
    ∀ i, OffendsAt charts i → (∀ j < i, ¬ OffendsAt charts j) →
      ∃ chart, charts[i]? = some chart ∧
        ((∃ e, chart.checked = .error e ∧ ofCharts charts = .error e) ∨
          chart.checked = .ok chart ∧
            ofCharts charts = .error (.duplicateChartId chart.id)) := by
  constructor
  · intro h
    obtain ⟨hfault, hids⟩ := forall_not_offendsAt_iff.mp h
    refine ⟨_, ofCharts_eq_ok hfault hids, rfl, fun chart hchart => ?_, hids⟩
    exact Chart.fault?_eq_none_iff.mp (hfault chart hchart)
  · intro i hoffends hfirst
    obtain ⟨chart, hchart, -⟩ := id hoffends
    have herror := ofCharts_of_firstOffence? (firstOffence?_of_offendsAt hoffends hfirst hchart)
    refine ⟨chart, hchart, ?_⟩
    rcases chart.offence_cases with hchecked | ⟨hchecked, hduplicate⟩
    · exact .inl ⟨_, hchecked, herror⟩
    · rw [hduplicate] at herror
      exact .inr ⟨hchecked, herror⟩

/-- Two charts that pass, one that repeats an id, and one that repeats an id and has a level
out of range. -/
def repeatedCharts : List Chart :=
  [.draft "1n" "1" .normal 20, .draft "2n" "2" .normal 20, .draft "2n" "2" .hyper 30,
    .draft "1n" "1" .normal 0]

/-- Of the two repeated ids the first is reported; without it, the fault of the last chart is,
not its id; and the first two charts make a catalog. -/
theorem ofCharts_repeatedCharts :
    (OffendsAt repeatedCharts 2 ∧ (∀ j < 2, ¬ OffendsAt repeatedCharts j) ∧
      ofCharts repeatedCharts = .error (.duplicateChartId "2n")) ∧
    (OffendsAt (repeatedCharts.eraseIdx 2) 2 ∧
      (∀ j < 2, ¬ OffendsAt (repeatedCharts.eraseIdx 2) j) ∧
      ofCharts (repeatedCharts.eraseIdx 2) =
        .error (.invalidChart "1n" (.levelOutOfRange 0))) ∧
    (∀ i, ¬ OffendsAt (repeatedCharts.take 2) i) ∧
      ∃ catalog, ofCharts (repeatedCharts.take 2) = .ok catalog ∧
        catalog.charts = repeatedCharts.take 2 := by
  have hrepeated : OffendsAt repeatedCharts 2 ∧ ∀ j < 2, ¬ OffendsAt repeatedCharts j := by
    decide +kernel
  have hfaulty : OffendsAt (repeatedCharts.eraseIdx 2) 2 ∧
      ∀ j < 2, ¬ OffendsAt (repeatedCharts.eraseIdx 2) j := by
    decide +kernel
  have hsound : ∀ i, ¬ OffendsAt (repeatedCharts.take 2) i :=
    forall_not_offendsAt_iff.mpr (by decide +kernel)
  refine ⟨⟨hrepeated.1, hrepeated.2, ?_⟩, ⟨hfaulty.1, hfaulty.2, ?_⟩, hsound, ?_⟩
  · obtain ⟨_, ⟨⟩, ⟨_, ⟨⟩, -⟩ | ⟨-, herror⟩⟩ :=
      (ofCharts_firstOffence repeatedCharts).2 2 hrepeated.1 hrepeated.2
    exact herror
  · obtain ⟨_, ⟨⟩, ⟨_, ⟨⟩, herror⟩ | ⟨⟨⟩, -⟩⟩ :=
      (ofCharts_firstOffence (repeatedCharts.eraseIdx 2)).2 2 hfaulty.1 hfaulty.2
    exact herror
  · obtain ⟨catalog, hcatalog, hcharts, -⟩ :=
      (ofCharts_firstOffence (repeatedCharts.take 2)).1 hsound
    exact ⟨catalog, hcatalog, hcharts⟩

end Catalog

end ChartCatalog
