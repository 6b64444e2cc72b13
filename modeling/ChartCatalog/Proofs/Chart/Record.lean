import ChartCatalog.Chart.Record
import ChartCatalog.Proofs.Chart.Collections
import ChartCatalog.Proofs.Field.Exact
import ChartCatalog.Proofs.Json.Rating

/-!
# Charts and their records

A code or tag has one written form and often more that are read; reading the
written form gives the same difficulty, level or folder again. From this, a chart
that is `Encodable` is read back from its record as far as its rating is read back from its
literal (`Chart.ofJson?_toJson`), which ratings of few digits are. Every chart that was
read is of that kind (`Chart.encodable_of_ofJson?`).
-/

namespace ChartCatalog

open Json Number Text

/-! ## Fields -/

@[simp] theorem Difficulty.ofJson?_toJson (difficulty : Difficulty) :
    ofJson? difficulty.toJson = some difficulty := by
  simp [ofJson?, toJson]

@[simp] theorem SranLevel.ofJson?_toJson (level : SranLevel) :
    ofJson? level.toJson = some level := by
  simp [ofJson?, toJson, ofText?_code]

namespace Folder

theorem ofJson?_toJson {folder : Folder} (h : folder.Exists) :
    ofJson? folder.toJson = some folder := by
  simp [ofJson?, toJson, ofText?_text h]

/-- Only folders that exist are read. -/
theorem exists_of_ofJson? {value : Json} {folder : Folder} (h : ofJson? value = some folder) :
    folder.Exists := by
  obtain ⟨text, -, htext⟩ := Option.bind_eq_some_iff.mp h
  exact exists_of_ofTag? htext

end Folder

/-- A set is the set of its members. -/
theorem LabelSet.ofList_toList (labels : LabelSet) : ofList labels.toList = labels := by
  apply eq_of_contains_iff
  intro label
  rw [contains_ofList, contains, List.contains_iff_mem]

/-! ## Charts -/

namespace Chart

/-- A chart whose rating is a number and whose folders exist. -/
structure Encodable (chart : Chart) : Prop where
  rating_isFinite : ∀ rating ∈ chart.rating, rating.isFinite = true
  folders_exist : ∀ folder ∈ chart.folders, folder.Exists

theorem writable_toJson (chart : Chart) : Writable chart.toJson := by
  apply writable_ofRecord
  simp only [List.forall_mem_cons]
  exact ⟨.string _, .string _, .string _, writable_ofNat _, writable_ofOption writable_ofBinary64 _,
    writable_ofOption (fun level => .string _) _, .string _, .bool _,
    writable_ofList (fun folder => .string _) _, writable_ofList (fun label => .string _) _,
    .string _, .string _, .string _, writable_ofOption (fun n => writable_ofNat _) _,
    writable_ofOption (fun n => writable_ofNat _) _, List.forall_mem_nil _⟩

theorem ofJson?_toJson {chart : Chart} (h : chart.Encodable)
    (hrating : ∀ rating ∈ chart.rating, Rereads rating) : ofJson? chart.toJson = some chart := by
  have hrating' : nullable? binary64? (.ofOption .ofBinary64 chart.rating) = some chart.rating :=
    nullable?_ofOption rfl fun rating hmem => hrating rating hmem (h.rating_isFinite rating hmem)
  have hsran : nullable? SranLevel.ofJson? (.ofOption SranLevel.toJson chart.sranLevel) =
      some chart.sranLevel :=
    nullable?_ofOption rfl fun level _ => level.ofJson?_toJson
  have hfolders : list? Folder.ofJson? (.ofList Folder.toJson chart.folders) =
      some chart.folders :=
    list?_ofList fun folder hmem => Folder.ofJson?_toJson (h.folders_exist folder hmem)
  have hlabels : list? text? (.ofList .ofString chart.songLabels.toList) =
      some chart.songLabels.toList :=
    list?_ofList fun label _ => text?_ofString label
  have hnumber : ∀ o : Option UInt32,
      nullable? uint32? (.ofOption (fun n => .ofNat n.toNat) o) = some o := by
    intro o
    exact nullable?_ofOption rfl fun n _ => uint32?_ofNat n
  have hchart : some { chart with songLabels := .ofList chart.songLabels.toList } = some chart := by
    rw [LabelSet.ofList_toList]
  unfold ofJson?
  refine bind_eq_some (Record.ofJson?_ofRecord fieldNames rfl (by decide)) ?_
  refine bind_eq_some (text?_ofString chart.id) ?_
  refine bind_eq_some (text?_ofString chart.songId) ?_
  refine bind_eq_some chart.difficulty.ofJson?_toJson ?_
  refine bind_eq_some (uint8?_ofNat chart.level) ?_
  refine bind_eq_some hrating' ?_
  refine bind_eq_some hsran ?_
  refine bind_eq_some (text?_ofString chart.tempo) ?_
  refine bind_eq_some (bool?_bool chart.hasHolds) ?_
  refine bind_eq_some hfolders ?_
  refine bind_eq_some hlabels ?_
  refine bind_eq_some (text?_ofString chart.title) ?_
  refine bind_eq_some (text?_ofString chart.genre) ?_
  refine bind_eq_some (text?_ofString chart.artist) ?_
  refine bind_eq_some (hnumber chart.notes) ?_
  refine bind_eq_some (hnumber chart.duration) ?_
  exact hchart

/-- A chart is read back from its text if its rating, where there is one, has few
digits. -/
theorem ofDocument?_compact_of_isShort {chart : Chart} (h : chart.Encodable)
    (hshort : ∀ rating ∈ chart.rating, rating.IsShort) :
    ofDocument? ofJson? chart.toJson.compact = some chart :=
  ofDocument?_compact chart.writable_toJson
    (ofJson?_toJson h fun rating hmem => rereads_of_isShort (hshort rating hmem))

/-- Only encodable charts are read. -/
theorem encodable_of_ofJson? {value : Json} {chart : Chart} (h : ofJson? value = some chart) :
    chart.Encodable := by
  -- the record and the fields before the rating
  iterate 5 obtain ⟨_, -, h⟩ := Option.bind_eq_some_iff.mp h
  obtain ⟨rating, hrating, h⟩ := Option.bind_eq_some_iff.mp h
  iterate 3 obtain ⟨_, -, h⟩ := Option.bind_eq_some_iff.mp h
  obtain ⟨folders, hfolders, h⟩ := Option.bind_eq_some_iff.mp h
  iterate 6 obtain ⟨_, -, h⟩ := Option.bind_eq_some_iff.mp h
  cases h
  exact ⟨Record.forall_mem_of_optional (fun _ _ => isFinite_of_binary64?) hrating,
    Record.of_required (fun _ _ => forall_mem_of_list? fun _ _ => Folder.exists_of_ofJson?) hfolders⟩

end Chart

end ChartCatalog
