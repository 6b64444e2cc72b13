import ChartCatalog.Proofs.Catalog.Build

/-!
# The hardest charts of a catalog

The highest difficulty of a song belongs to one of its charts and is above none
of them (`hardestAmong_eq_some_iff`), so a chart of a list is the hardest of its
song if no chart of the song is above it (`Chart.isHardest_iff`).

The index of a catalog is built chart by chart, and looking a song up in it is
scanning the charts for it: a catalog and the list of its charts are the same
context for every condition and every query (`hardest_ofCharts`).
-/

namespace ChartCatalog

/-! ## The order of difficulties -/

namespace Difficulty

instance : Std.IsLinearOrder Difficulty where
  le_refl a := Nat.le_refl a.rank
  le_trans _ _ _ hab hbc := Nat.le_trans hab hbc
  le_antisymm _ _ hab hba := rank_injective (Nat.le_antisymm hab hba)
  le_total a b := Nat.le_total a.rank b.rank

instance : Std.LawfulOrderMax Difficulty where
  max_eq_or a b := by
    by_cases h : a ≤ b
    · exact .inr (if_pos h)
    · exact .inl (if_neg h)
  max_le_iff a b c := by
    by_cases h : a ≤ b
    · rw [show max a b = b from if_pos h]
      exact ⟨fun hb => ⟨Nat.le_trans h hb, hb⟩, And.right⟩
    · rw [show max a b = a from if_neg h]
      have hba : b ≤ a := Nat.le_of_not_le h
      exact ⟨fun ha => ⟨ha, Nat.le_trans hba ha⟩, And.left⟩

theorem lt_of_le_of_ne {a b : Difficulty} (hle : a ≤ b) (hne : a ≠ b) : a < b :=
  Nat.lt_of_le_of_ne hle fun h => hne (rank_injective h)

end Difficulty

/-! ## The highest difficulty of a song -/

variable {charts : List Chart} {songId : String} {chart : Chart} {top : Difficulty}

theorem mem_songDifficulties_iff {d : Difficulty} :
    d ∈ (charts.filter (·.songId = songId)).map (·.difficulty) ↔
      ∃ chart ∈ charts, chart.songId = songId ∧ chart.difficulty = d := by
  simp only [List.mem_map, List.mem_filter, decide_eq_true_eq, and_assoc]

theorem hardestAmong_eq_none_iff : hardestAmong charts songId = none ↔
    ∀ chart ∈ charts, chart.songId ≠ songId := by
  rw [hardestAmong, List.max?_eq_none_iff, List.map_eq_nil_iff, List.filter_eq_nil_iff]
  simp only [decide_eq_true_eq, ne_eq]

/-- The highest difficulty is that of some chart, and no chart is above it. -/
theorem hardestAmong_eq_some_iff : hardestAmong charts songId = some top ↔
    (∃ chart ∈ charts, chart.songId = songId ∧ chart.difficulty = top) ∧
      ∀ chart ∈ charts, chart.songId = songId → chart.difficulty ≤ top := by
  rw [hardestAmong, List.max?_eq_some_iff, mem_songDifficulties_iff]
  refine and_congr_right fun _ => ⟨fun h chart hchart hsong => ?_, fun h d hd => ?_⟩
  · exact h _ (mem_songDifficulties_iff.mpr ⟨chart, hchart, hsong, rfl⟩)
  · obtain ⟨chart, hchart, hsong, rfl⟩ := mem_songDifficulties_iff.mp hd
    exact h chart hchart hsong

theorem Chart.isHardest_eq_true_iff {hardest : HardestOf} :
    chart.isHardest hardest = true ↔ hardest chart.songId = some chart.difficulty := by
  rw [isHardest, beq_iff_eq]

/-- A chart of the list is the hardest of its song if none of the song is above
it. -/
theorem Chart.isHardest_iff (h : chart ∈ charts) : chart.isHardest (hardestAmong charts) = true ↔
    ∀ other ∈ charts, other.songId = chart.songId → other.difficulty ≤ chart.difficulty := by
  rw [isHardest_eq_true_iff, hardestAmong_eq_some_iff]
  exact and_iff_right ⟨chart, h, rfl, rfl⟩

/-- The condition that a chart is the hardest of its song. -/
def hardestCondition : Condition := .flag ⟨.hardest, .require⟩

theorem accepts_hardestCondition_iff {hardest : HardestOf} :
    hardestCondition.accepts chart hardest = true ↔
      hardest chart.songId = some chart.difficulty :=
  Chart.isHardest_eq_true_iff

/-- Of a song with charts the hardest are those of one difficulty, of which there are
some, and all others are below it. -/
theorem exists_hardest (h : ∃ chart ∈ charts, chart.songId = songId) : ∃ top,
    (∃ chart ∈ charts, chart.songId = songId ∧
      hardestCondition.accepts chart (hardestAmong charts) = true) ∧
    ∀ chart ∈ charts, chart.songId = songId →
      (hardestCondition.accepts chart (hardestAmong charts) = true → chart.difficulty = top) ∧
      (hardestCondition.accepts chart (hardestAmong charts) = false →
        chart.difficulty < top) := by
  obtain ⟨known, hknown, hsong⟩ := h
  cases htop : hardestAmong charts songId with
  | none => exact absurd hsong (hardestAmong_eq_none_iff.mp htop known hknown)
  | some top =>
    obtain ⟨⟨highest, hmem, hhighest, hdifficulty⟩, hle⟩ := hardestAmong_eq_some_iff.mp htop
    have haccepts : ∀ chart : Chart, chart.songId = songId →
        (hardestCondition.accepts chart (hardestAmong charts) = true ↔
          chart.difficulty = top) := by
      intro chart hsong
      rw [accepts_hardestCondition_iff, hsong, htop, Option.some_inj]
      exact eq_comm
    refine ⟨top, ⟨highest, hmem, hhighest, (haccepts _ hhighest).mpr hdifficulty⟩, ?_⟩
    intro chart hchart hsong
    refine ⟨(haccepts chart hsong).mp, fun hbelow => ?_⟩
    refine Difficulty.lt_of_le_of_ne (hle chart hchart hsong) fun heq => ?_
    rw [(haccepts chart hsong).mpr heq] at hbelow
    exact absurd hbelow (by decide)

/-! ## Catalogs -/

namespace Catalog

/-- What the index of a catalog says of a song is what a scan of the charts says,
and every condition and every query is answered alike with either. Of a song with
charts the hardest are those of one difficulty, and all others are below it. -/
theorem hardest_ofCharts {catalog : Catalog} (h : ofCharts charts = .ok catalog) :
    (∀ songId, catalog.hardest songId = hardestAmong charts songId ∧
      (catalog.hardest songId = none ↔ ∀ chart ∈ charts, chart.songId ≠ songId)) ∧
    (∀ (chart : Chart) (condition : Condition),
      condition.accepts chart catalog.hardest = condition.accepts chart (hardestAmong charts)) ∧
    (∀ (chart : Chart) (query : Query),
      query.accepts chart catalog.hardest = query.accepts chart (hardestAmong charts)) ∧
    ∀ songId, (∃ chart ∈ charts, chart.songId = songId) → ∃ top,
      (∃ chart ∈ charts, chart.songId = songId ∧
        hardestCondition.accepts chart catalog.hardest = true) ∧
      ∀ chart ∈ charts, chart.songId = songId →
        (hardestCondition.accepts chart catalog.hardest = true → chart.difficulty = top) ∧
        (hardestCondition.accepts chart catalog.hardest = false → chart.difficulty < top) := by
  obtain ⟨hfault, hids, rfl⟩ := ofCharts_eq_ok_iff.mp h
  have hscan : (ofFaultless charts hfault hids).hardest = hardestAmong charts :=
    funext (HardestIndex.getElem?_ofCharts charts)
  rw [hscan]
  exact ⟨fun songId => ⟨rfl, hardestAmong_eq_none_iff⟩, fun _ _ => rfl, fun _ _ => rfl,
    fun songId => exists_hardest⟩

/-- Two charts of one song that are tied above a third, and a chart of another
song between them. -/
def tiedCharts : List Chart :=
  [.draft "1n" "1" .normal 20, .draft "1h" "1" .hyper 30, .draft "2ex" "2" .extra 40,
   .draft "1uh" "1" .hyper 31]

/-- The tied charts are the hardest of their song, the third is below them. -/
theorem hardest_tiedCharts : ∃ catalog, ofCharts tiedCharts = .ok catalog ∧
    catalog.hardest "1" = some .hyper ∧ catalog.hardest "3" = none ∧
    ∀ chart ∈ tiedCharts, chart.songId = "1" →
      (hardestCondition.accepts chart catalog.hardest = true ↔ chart.difficulty = .hyper) := by
  have hbuilt : ofCharts tiedCharts = .ok (ofFaultless tiedCharts (by decide) (by decide)) :=
    ofCharts_eq_ok _ _
  obtain ⟨hindex, haccepts, -, -⟩ := hardest_ofCharts hbuilt
  refine ⟨_, hbuilt, (hindex "1").1.trans (by decide), (hindex "3").2.mpr (by decide), ?_⟩
  intro chart hchart hsong
  rw [haccepts chart hardestCondition]
  revert chart
  decide

end Catalog

end ChartCatalog
