import ChartCatalog.Proofs.Catalog.Hardest
import ChartCatalog.Proofs.Catalog.Meaning

/-!
# Songs are independent of each other

Whether a chart satisfies a condition depends on other charts in one place only: it
may have to be the hardest of its song, and then the charts of that song matter, as a
set (`Condition.accepts_congr`, `hardestAmong_congr`). So a catalog of two lists of
charts without a song in common answers with what either list answers, and the order
of the charts decides the order of an answer and nothing else
(`query_append_and_perm`).
-/

namespace ChartCatalog

variable {chart : Chart} {hardest hardest' : HardestOf}

/-! ## What a condition asks of the other charts -/

theorem Flag.holdsFor_congr (flag : Flag) (h : hardest chart.songId = hardest' chart.songId) :
    flag.holdsFor chart hardest = flag.holdsFor chart hardest' := by
  cases flag with
  | hardest =>
    show (hardest chart.songId == some chart.difficulty) =
      (hardest' chart.songId == some chart.difficulty)
    rw [h]
  | _ => rfl

/-- A condition asks for the highest difficulty of the chart's own song at most. -/
theorem Condition.accepts_congr (condition : Condition)
    (h : hardest chart.songId = hardest' chart.songId) :
    condition.accepts chart hardest = condition.accepts chart hardest' := by
  cases condition with
  | flag clause => exact congrArg clause.holds (clause.flag.holdsFor_congr h)
  | _ => rfl

theorem Query.accepts_congr (query : Query) (h : hardest chart.songId = hardest' chart.songId) :
    query.accepts chart hardest = query.accepts chart hardest' := by
  have hall : query.conditions.all (·.accepts chart hardest) =
      query.conditions.all (·.accepts chart hardest') := by
    rw [Bool.eq_iff_iff, List.all_eq_true, List.all_eq_true]
    refine forall₂_congr fun condition _ => ?_
    rw [condition.accepts_congr h]
  rw [Query.accepts, Query.accepts, hall]

/-! ## Lists of charts with the same charts of a song -/

variable {charts charts' left right : List Chart} {songId : String}

/-- The highest difficulty of a song is settled by the set of its charts. -/
theorem hardestAmong_congr
    (h : ∀ chart : Chart, chart.songId = songId → (chart ∈ charts ↔ chart ∈ charts')) :
    hardestAmong charts songId = hardestAmong charts' songId := by
  apply Option.ext
  intro top
  show hardestAmong charts songId = some top ↔ hardestAmong charts' songId = some top
  rw [hardestAmong_eq_some_iff, hardestAmong_eq_some_iff]
  constructor
  · rintro ⟨⟨highest, hmem, hsong, htop⟩, hle⟩
    refine ⟨⟨highest, (h highest hsong).mp hmem, hsong, htop⟩, ?_⟩
    intro chart hchart hsong'
    exact hle chart ((h chart hsong').mpr hchart) hsong'
  · rintro ⟨⟨highest, hmem, hsong, htop⟩, hle⟩
    refine ⟨⟨highest, (h highest hsong).mpr hmem, hsong, htop⟩, ?_⟩
    intro chart hchart hsong'
    exact hle chart ((h chart hsong').mp hchart) hsong'

theorem hardestAmong_perm (h : charts'.Perm charts) :
    hardestAmong charts' = hardestAmong charts := by
  funext songId
  exact hardestAmong_congr fun chart _ => h.mem_iff

/-- No song has charts in both lists. -/
def SongsApart (left right : List Chart) : Prop :=
  ∀ a ∈ left, ∀ b ∈ right, a.songId ≠ b.songId

instance (left right : List Chart) : Decidable (SongsApart left right) :=
  inferInstanceAs (Decidable (∀ a ∈ left, ∀ b ∈ right, a.songId ≠ b.songId))

theorem SongsApart.hardestAmong_left (h : SongsApart left right) (hchart : chart ∈ left) :
    hardestAmong (left ++ right) chart.songId = hardestAmong left chart.songId := by
  apply hardestAmong_congr
  intro other hsong
  rw [List.mem_append]
  refine or_iff_left fun hother => ?_
  exact h chart hchart other hother hsong.symm

theorem SongsApart.hardestAmong_right (h : SongsApart left right) (hchart : chart ∈ right) :
    hardestAmong (left ++ right) chart.songId = hardestAmong right chart.songId := by
  apply hardestAmong_congr
  intro other hsong
  rw [List.mem_append]
  refine or_iff_right fun hother => ?_
  exact h other hother chart hchart hsong

/-! ## What a query lists -/

namespace Query

/-- The charts of a list that a query selects, its exclusions included. -/
def selected (query : Query) (charts : List Chart) : List Chart :=
  charts.filter (query.effective.accepts · (hardestAmong charts))

theorem selected_append (query : Query) (h : SongsApart left right) :
    query.selected (left ++ right) = query.selected left ++ query.selected right := by
  have hleft : left.filter (query.effective.accepts · (hardestAmong (left ++ right))) =
      query.selected left := by
    apply List.filter_congr
    intro chart hchart
    exact accepts_congr _ (h.hardestAmong_left hchart)
  have hright : right.filter (query.effective.accepts · (hardestAmong (left ++ right))) =
      query.selected right := by
    apply List.filter_congr
    intro chart hchart
    exact accepts_congr _ (h.hardestAmong_right hchart)
  rw [selected, List.filter_append, hleft, hright]

theorem selected_perm (query : Query) (h : charts'.Perm charts) :
    (query.selected charts').Perm (query.selected charts) := by
  rw [selected, hardestAmong_perm h]
  exact h.filter _

end Query

/-! ## Catalogs -/

namespace Catalog

variable {catalog : Catalog} {filter : String} {e : CatalogError}

theorem search_eq_selected (catalog : Catalog) (query : Query) :
    catalog.search query = query.selected catalog.charts := by
  rw [search, Query.selected, hardest_eq]

theorem query_eq_error_iff : catalog.query filter = .error e ↔ Query.parse filter = .error e := by
  unfold Catalog.query
  cases Query.parse filter with
  | error e' => simp [Except.map]
  | ok query => simp [Except.map]

theorem query_of_ofCharts {query : Query} (hparse : Query.parse filter = .ok query)
    (h : ofCharts charts = .ok catalog) : catalog.query filter = .ok (query.selected charts) := by
  rw [query_eq_ok_iff, ← charts_of_ofCharts h]
  exact ⟨query, hparse, catalog.search_eq_selected query⟩

theorem exists_ofCharts_perm (h : charts'.Perm charts) :
    (∃ catalog, ofCharts charts' = .ok catalog) ↔ ∃ catalog, ofCharts charts = .ok catalog := by
  rw [exists_ofCharts_iff, exists_ofCharts_iff, (h.map _).nodup_iff]
  refine and_congr_left fun _ => forall_congr' fun chart => ?_
  rw [h.mem_iff]

/-- Both parts of a list that makes a catalog make catalogs. -/
theorem exists_ofCharts_append (h : ∃ catalog, ofCharts (left ++ right) = .ok catalog) :
    (∃ catalog, ofCharts left = .ok catalog) ∧ ∃ catalog, ofCharts right = .ok catalog := by
  simp only [exists_ofCharts_iff] at h ⊢
  obtain ⟨hfault, hids⟩ := h
  rw [List.map_append, List.nodup_append] at hids
  refine ⟨⟨fun chart hchart => ?_, hids.1⟩, fun chart hchart => ?_, hids.2.1⟩
  · exact hfault chart (List.mem_append_left _ hchart)
  · exact hfault chart (List.mem_append_right _ hchart)

/-- Queries are local to songs: a catalog of two lists of charts without a song in
common answers every filter with the charts of the first list that it selects there
and then those of the second, or refuses it as both do. They do not depend on the
order of the charts: if one order makes a catalog, every other one does, and every
filter selects the same charts in either, listed in the order of the catalog. -/
theorem query_append_and_perm :
    (∀ left right whole, SongsApart left right → ofCharts (left ++ right) = .ok whole →
      ∃ first second, ofCharts left = .ok first ∧ ofCharts right = .ok second ∧
        ∀ filter,
          (∃ found found', first.query filter = .ok found ∧ second.query filter = .ok found' ∧
            whole.query filter = .ok (found ++ found')) ∨
          ∃ e, first.query filter = .error e ∧ second.query filter = .error e ∧
            whole.query filter = .error e) ∧
    ∀ charts charts', charts'.Perm charts →
      ((∃ catalog', ofCharts charts' = .ok catalog') ↔
        ∃ catalog, ofCharts charts = .ok catalog) ∧
      ∀ catalog catalog', ofCharts charts = .ok catalog → ofCharts charts' = .ok catalog' →
        ∀ filter,
          (∃ found found', catalog.query filter = .ok found ∧
            catalog'.query filter = .ok found' ∧ found'.Perm found ∧
            found'.Sublist charts') ∨
          ∃ e, catalog.query filter = .error e ∧ catalog'.query filter = .error e := by
  constructor
  · intro left right whole hapart hwhole
    obtain ⟨⟨first, hfirst⟩, second, hsecond⟩ := exists_ofCharts_append ⟨whole, hwhole⟩
    refine ⟨first, second, hfirst, hsecond, fun filter => ?_⟩
    -- a filter is read without looking at the charts
    cases hparse : Query.parse filter with
    | error e =>
      right
      exact ⟨e, query_eq_error_iff.mpr hparse, query_eq_error_iff.mpr hparse,
        query_eq_error_iff.mpr hparse⟩
    | ok query =>
      left
      refine ⟨_, _, query_of_ofCharts hparse hfirst, query_of_ofCharts hparse hsecond, ?_⟩
      rw [query_of_ofCharts hparse hwhole, query.selected_append hapart]
  · intro charts charts' hperm
    refine ⟨exists_ofCharts_perm hperm, fun catalog catalog' hcatalog hcatalog' filter => ?_⟩
    cases hparse : Query.parse filter with
    | error e =>
      right
      exact ⟨e, query_eq_error_iff.mpr hparse, query_eq_error_iff.mpr hparse⟩
    | ok query =>
      left
      refine ⟨_, _, query_of_ofCharts hparse hcatalog, query_of_ofCharts hparse hcatalog', ?_, ?_⟩
      · exact query.selected_perm hperm
      · exact List.filter_sublist

/-- Two charts of a song, the second one the hardest. -/
def firstSong : List Chart := [.draft "1n" "1" .normal 20, .draft "1h" "1" .hyper 30]

/-- Two charts of another song, the first one the hardest. -/
def secondSong : List Chart := [.draft "2ex" "2" .extra 40, .draft "2n" "2" .normal 10]

/-- The hardest charts of two songs are those of the one and those of the other. With
the songs in the other order they are the same charts. -/
theorem query_twoSongs : SongsApart firstSong secondSong ∧
    (secondSong ++ firstSong).Perm (firstSong ++ secondSong) ∧
    ∃ whole swapped, ofCharts (firstSong ++ secondSong) = .ok whole ∧
      ofCharts (secondSong ++ firstSong) = .ok swapped ∧
      whole.query "hardest" = .ok [.draft "1h" "1" .hyper 30, .draft "2ex" "2" .extra 40] ∧
      ∃ found', swapped.query "hardest" = .ok found' ∧
        found'.Perm [.draft "1h" "1" .hyper 30, .draft "2ex" "2" .extra 40] ∧
        found'.Sublist (secondSong ++ firstSong) := by
  have hapart : SongsApart firstSong secondSong := by decide
  have hperm : (secondSong ++ firstSong).Perm (firstSong ++ secondSong) :=
    List.perm_append_comm
  have hparse : Query.parse "hardest" = .ok ⟨[hardestCondition]⟩ := by decide +kernel
  have hbuilt : ofCharts (firstSong ++ secondSong) = .ok
      (ofFaultless (firstSong ++ secondSong) (by decide) (by decide)) := ofCharts_eq_ok _ _
  generalize ofFaultless (firstSong ++ secondSong) _ _ = whole at hbuilt
  obtain ⟨hlocal, horder⟩ := query_append_and_perm
  -- the answers of the two songs, one after the other
  have hwhole : whole.query "hardest" =
      .ok [.draft "1h" "1" .hyper 30, .draft "2ex" "2" .extra 40] := by
    obtain ⟨first, second, hfirst, hsecond, hquery⟩ := hlocal _ _ _ hapart hbuilt
    rcases hquery "hardest" with ⟨found, found', hfound, hfound', hwhole⟩ | ⟨e, he, -⟩
    · rw [query_of_ofCharts hparse hfirst] at hfound
      rw [query_of_ofCharts hparse hsecond] at hfound'
      rw [hwhole, ← Except.ok.inj hfound, ← Except.ok.inj hfound']
      decide
    · rw [query_of_ofCharts hparse hfirst] at he
      exact absurd he (by simp)
  obtain ⟨haccepted, hanswers⟩ := horder _ _ hperm
  obtain ⟨swapped, hswapped⟩ := haccepted.mpr ⟨whole, hbuilt⟩
  refine ⟨hapart, hperm, whole, swapped, hbuilt, hswapped, hwhole, ?_⟩
  rcases hanswers whole swapped hbuilt hswapped "hardest" with
    ⟨found, found', hfound, hfound', hsame, hsublist⟩ | ⟨e, he, -⟩
  · rw [hwhole] at hfound
    rw [← Except.ok.inj hfound] at hsame
    exact ⟨found', hfound', hsame, hsublist⟩
  · rw [hwhole] at he
    exact absurd he (by simp)

end Catalog

end ChartCatalog
