import ChartCatalog.Proofs.Catalog.Build
import ChartCatalog.Proofs.Chart.Record

/-!
# Charts put together by edits

One edit touches the folders of a chart only if it adds a folder (`folders_apply`), so a run of
edits leaves the folders that it adds, each once and in order of first appearance
(`folders_applyAll`). A chart that passes its check is not changed by it. Hence the charts that
are put together from a draft and pass the check are the charts without a fault and without a
repeated folder, and every such chart can be put together (`exists_edits_iff`).
-/

namespace ChartCatalog.Chart

variable {chart : Chart}

/-! ## What edits do to the folders -/

/-- The folder that an edit adds, if it adds one. -/
def Edit.folder? : Edit → Option Folder
  | .folder added => some added
  | .rating _ | .sranLevel _ | .tempo _ | .holds _ | .label _ | .labels _ | .title _ | .genre _
  | .artist _ | .notes _ | .duration _ => none

/-- The folders that edits add, in order. -/
def addedFolders (edits : List Edit) : List Folder := edits.filterMap Edit.folder?

theorem folders_apply (chart : Chart) (edit : Edit) :
    (chart.apply edit).folders = edit.folder?.toList.foldl pushNew chart.folders := by
  cases edit <;> rfl

theorem applyAll_append (chart : Chart) (edits more : List Edit) :
    chart.applyAll (edits ++ more) = (chart.applyAll edits).applyAll more :=
  List.foldl_append

theorem folders_applyAll (chart : Chart) (edits : List Edit) :
    (chart.applyAll edits).folders = (addedFolders edits).foldl pushNew chart.folders := by
  induction edits generalizing chart with
  | nil => rfl
  | cons edit edits ih =>
    have hadded : addedFolders (edit :: edits) = edit.folder?.toList ++ addedFolders edits := by
      unfold addedFolders
      rw [List.filterMap_cons]
      cases edit.folder? <;> rfl
    rw [hadded, List.foldl_append, ← folders_apply]
    exact ih (chart.apply edit)

theorem nodup_folders_applyAll (h : chart.folders.Nodup) (edits : List Edit) :
    (chart.applyAll edits).folders.Nodup := by
  rw [folders_applyAll]
  exact nodup_foldl_pushNew h

/-! ## Edits for a chart -/

/-- Edits that make the chart from a draft. -/
def edits (chart : Chart) : List Edit :=
  [.tempo chart.tempo, .holds chart.hasHolds, .labels chart.songLabels.toList,
    .title chart.title, .genre chart.genre, .artist chart.artist] ++
  chart.rating.toList.map .rating ++ chart.sranLevel.toList.map .sranLevel ++
  chart.notes.toList.map .notes ++ chart.duration.toList.map .duration ++
  chart.folders.map .folder

theorem applyAll_map_folder (chart : Chart) (folders : List Folder) :
    chart.applyAll (folders.map .folder) =
      { chart with folders := folders.foldl pushNew chart.folders } := by
  induction folders generalizing chart with
  | nil => rfl
  | cons folder folders ih => exact ih (chart.apply (.folder folder))

theorem applyAll_edits (h : chart.folders.Nodup) :
    (draft chart.id chart.songId chart.difficulty chart.level).applyAll chart.edits = chart := by
  obtain ⟨id, songId, difficulty, level, rating, sranLevel, tempo, hasHolds, folders, songLabels,
    title, genre, artist, notes, duration⟩ := chart
  have hlabels : LabelSet.empty.insertAll songLabels.toList = songLabels :=
    LabelSet.ofList_toList songLabels
  have hfolders : folders.foldl pushNew [] = folders := distinct_of_nodup h
  simp only [edits, applyAll_append, applyAll_map_folder]
  cases rating <;> cases sranLevel <;> cases notes <;> cases duration <;>
    simp [applyAll, apply, draft, hlabels, hfolders]

/-- The charts that are put together from a draft and pass the check are exactly the charts
that have no fault and are in no folder twice. -/
theorem exists_edits_iff : (∃ id songId difficulty level edits,
    ((draft id songId difficulty level).applyAll edits).checked = .ok chart) ↔
      chart.checked = .ok chart ∧ chart.folders.Nodup := by
  constructor
  · rintro ⟨id, songId, difficulty, level, edits, h⟩
    obtain ⟨rfl, hfault⟩ := checked_eq_ok_iff.mp h
    exact ⟨h, nodup_folders_applyAll List.nodup_nil edits⟩
  · rintro ⟨hchecked, hnodup⟩
    refine ⟨chart.id, chart.songId, chart.difficulty, chart.level, chart.edits, ?_⟩
    rw [applyAll_edits hnodup]
    exact hchecked

end ChartCatalog.Chart
