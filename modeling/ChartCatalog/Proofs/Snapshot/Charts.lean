import ChartCatalog.Proofs.Catalog.Build
import ChartCatalog.Proofs.Chart.Collections
import ChartCatalog.Proofs.Field.Spelling
import ChartCatalog.Proofs.Traversal
import ChartCatalog.Snapshot

/-!
# The charts of a snapshot

What a chart has to do with the entry from which it is made (`Entry.Describes`), and
for what reasons there is no chart (`Entry.Faulty`), both said field by field and
without an order in which the fields are looked at. An entry has a chart exactly if it
is not faulty, and the chart is the one that it describes (`Entry.toChart_eq_ok_iff`).

A snapshot is all or nothing: a document of another form is refused whatever its
entries are; otherwise the first faulty entry is named, and if there is none every
entry has its chart (`parse_allOrNothing`).
-/

namespace ChartCatalog.Snapshot

open Number Text

deriving instance DecidableEq for RatingEntry, SranEntry, Entry

/-! ## The form of a document -/

/-- The document is an array, and the entries are those of its items. -/
def HasEntries (document : String) (entries : List Entry) : Prop :=
  ∃ items, Json.parse? document = some (.array items) ∧
    List.Forall₂ (fun item entry => entry? item = some entry) items entries

theorem entries?_eq_some_iff {document : String} {entries : List Entry} :
    entries? document = some entries ↔ HasEntries document entries := by
  unfold entries?
  rw [Option.bind_eq_some_iff]
  constructor
  · rintro ⟨value, hvalue, h⟩
    cases value with
    | array items => exact ⟨items, hvalue, mapM_eq_some_iff_forall₂.mp h⟩
    | _ => exact absurd h (by simp [Json.list?])
  · rintro ⟨items, hitems, h⟩
    exact ⟨_, hitems, mapM_eq_some_iff_forall₂.mpr h⟩

/-! ## Fields with more than one form -/

/-- The rating that an entry gives, finite or not. -/
inductive RatingEntry.Denotes : RatingEntry → Binary64 → Prop
  | number (value : Binary64) : Denotes (.number value) value
  | text {numeral : String} {value : Binary64} :
    Binary64.ofText? (trim numeral.toList) = some value → Denotes (.text numeral) value

/-- The sran level that an entry gives. -/
inductive SranEntry.Denotes : SranEntry → SranLevel → Prop
  | number {n : UInt8} {level : SranLevel} :
    SranLevel.ofNumber? n.toNat = some level → Denotes (.number n) level
  | text {spelling : String} {level : SranLevel} :
    SranLevel.ofText? spelling = some level → Denotes (.text spelling) level

theorem RatingEntry.denotes_text_iff {numeral : String} {value : Binary64} :
    (RatingEntry.text numeral).Denotes value ↔
      Binary64.ofText? (trim numeral.toList) = some value := by
  constructor
  · rintro (_ | hread)
    exact hread
  · exact .text

theorem RatingEntry.toRating_eq_ok_iff {given : RatingEntry} {value : Binary64} :
    given.toRating = .ok value ↔ given.Denotes value := by
  cases given with
  | number n =>
    constructor
    · rintro ⟨⟩
      exact .number _
    · rintro ⟨⟩
      rfl
  | text numeral =>
    rw [denotes_text_iff, toRating]
    cases Binary64.ofText? (trim numeral.toList) <;> simp

theorem SranEntry.toSranLevel_eq_ok_iff {given : SranEntry} {level : SranLevel} :
    given.toSranLevel = .ok level ↔ given.Denotes level := by
  cases given with
  | number n =>
    refine SranLevel.parseNumber_eq_ok_iff.trans ⟨.number, ?_⟩
    rintro (h | _)
    exact h
  | text spelling =>
    refine SranLevel.parse_eq_ok_iff.trans ⟨.text, ?_⟩
    rintro (_ | h)
    exact h

theorem RatingEntry.Denotes.unique {given : RatingEntry} {value value' : Binary64}
    (h : given.Denotes value) (h' : given.Denotes value') : value = value' := by
  rw [← toRating_eq_ok_iff] at h h'
  rw [h] at h'
  exact Except.ok.inj h'

namespace Entry

variable {entry : Entry} {chart : Chart}

/-! ## Charts and their entries -/

/-- The chart says what the entry says. -/
structure Describes (entry : Entry) (chart : Chart) : Prop where
  id_eq : chart.id = entry.id
  songId_eq : chart.songId = entry.songId
  difficulty : Difficulty.ofText? entry.difficulty = some chart.difficulty
  level_eq : chart.level = entry.level
  rating : Option.Rel RatingEntry.Denotes entry.rating chart.rating
  sranLevel : Option.Rel SranEntry.Denotes entry.sranLevel chart.sranLevel
  tempo_eq : chart.tempo = entry.tempo.getD ""
  hasHolds_iff : chart.hasHolds = true ↔ 0 < entry.holds
  /-- The folders of the tags, each once, where it first appears. -/
  folders : ∃ folders, List.Forall₂ (fun tag folder => Folder.ofText? tag = some folder)
    entry.folders folders ∧ chart.folders = folders.eraseDups
  hasLabel_iff : ∀ label, chart.hasLabel label = true ↔ label ∈ entry.labels ∨
    label = "lively" ∧ entry.debut = some "cslively" ∨
    label = "eemall" ∧ entry.debut = some "eemall"
  title_eq : chart.title = entry.title
  genre_eq : chart.genre = entry.genre
  artist_eq : chart.artist = entry.artist
  notes_eq : chart.notes = entry.notes
  duration_eq : chart.duration = entry.duration

theorem mem_debutLabels_iff {label : String} {debut : Option String} :
    label ∈ debutLabels debut ↔ label = "lively" ∧ debut = some "cslively" ∨
      label = "eemall" ∧ debut = some "eemall" := by
  unfold debutLabels
  split
  · simp
  · simp
  · rename_i hlively heemall
    constructor
    · intro h
      exact absurd h (List.not_mem_nil)
    · rintro (⟨-, h⟩ | ⟨-, h⟩)
      · exact absurd h hlively
      · exact absurd h heemall

/-- The chart of an entry of which the fields with several forms are read. -/
def assembled (entry : Entry) (difficulty : Difficulty) (rating : Option Binary64)
    (sranLevel : Option SranLevel) (folders : List Folder) : Chart where
  id := entry.id
  songId := entry.songId
  difficulty := difficulty
  level := entry.level
  rating := rating
  sranLevel := sranLevel
  tempo := entry.tempo.getD ""
  hasHolds := 0 < entry.holds
  folders := distinct folders
  songLabels := (LabelSet.ofList entry.labels).insertAll (debutLabels entry.debut)
  title := entry.title
  genre := entry.genre
  artist := entry.artist
  notes := entry.notes
  duration := entry.duration

theorem contains_labels_iff {label : String} :
    ((LabelSet.ofList entry.labels).insertAll (debutLabels entry.debut)).contains label = true ↔
      label ∈ entry.labels ∨ label = "lively" ∧ entry.debut = some "cslively" ∨
        label = "eemall" ∧ entry.debut = some "eemall" := by
  rw [LabelSet.contains_insertAll, LabelSet.contains_ofList, mem_debutLabels_iff]

theorem describes_assembled {difficulty : Difficulty} {rating : Option Binary64}
    {sranLevel : Option SranLevel} {folders : List Folder}
    (hdifficulty : Difficulty.ofText? entry.difficulty = some difficulty)
    (hrating : Option.Rel RatingEntry.Denotes entry.rating rating)
    (hsranLevel : Option.Rel SranEntry.Denotes entry.sranLevel sranLevel)
    (hfolders : List.Forall₂ (fun tag folder => Folder.ofText? tag = some folder)
      entry.folders folders) :
    entry.Describes (entry.assembled difficulty rating sranLevel folders) := by
  constructor
  case difficulty => exact hdifficulty
  case rating => exact hrating
  case sranLevel => exact hsranLevel
  case hasHolds_iff => exact decide_eq_true_iff
  case folders => exact ⟨folders, hfolders, distinct_eq_eraseDups folders⟩
  case hasLabel_iff =>
    intro label
    exact contains_labels_iff
  all_goals rfl

/-- There is no other chart that an entry describes. -/
theorem Describes.eq_assembled (h : entry.Describes chart) {folders : List Folder}
    (hfolders : chart.folders = folders.eraseDups) :
    entry.assembled chart.difficulty chart.rating chart.sranLevel folders = chart := by
  have hholds : decide (0 < entry.holds) = chart.hasHolds := by
    rw [Bool.eq_iff_iff, decide_eq_true_iff, h.hasHolds_iff]
  have hlabels : (LabelSet.ofList entry.labels).insertAll (debutLabels entry.debut) =
      chart.songLabels := by
    apply LabelSet.eq_of_contains_iff
    intro label
    rw [contains_labels_iff]
    exact (h.hasLabel_iff label).symm
  rw [assembled, hholds, hlabels, distinct_eq_eraseDups, ← hfolders, ← h.id_eq, ← h.songId_eq,
    ← h.level_eq, ← h.tempo_eq, ← h.title_eq, ← h.genre_eq, ← h.artist_eq, ← h.notes_eq,
    ← h.duration_eq]

/-- Reading an entry succeeds exactly with the chart that it describes. -/
theorem read_eq_ok_iff : entry.read = .ok chart ↔ entry.Describes chart := by
  unfold read
  simp only [bind_eq_ok_iff, mapError_eq_ok_iff, Difficulty.parse_eq_ok_iff,
    option_mapM_eq_ok_iff, RatingEntry.toRating_eq_ok_iff, SranEntry.toSranLevel_eq_ok_iff,
    mapM_eq_ok_iff_forall₂, Folder.parse_eq_ok_iff]
  constructor
  · rintro ⟨difficulty, hdifficulty, rating, hrating, sranLevel, hsranLevel, folders, hfolders,
      h⟩
    rw [← Except.ok.inj h]
    exact describes_assembled hdifficulty hrating hsranLevel hfolders
  · intro h
    obtain ⟨folders, hfolders, hdistinct⟩ := h.folders
    refine ⟨_, h.difficulty, _, h.rating, _, h.sranLevel, folders, hfolders, ?_⟩
    exact congrArg Except.ok (h.eq_assembled hdistinct)

theorem toChart_eq_ok_iff :
    entry.toChart = .ok chart ↔ entry.Describes chart ∧ chart.fault? = none := by
  rw [← read_eq_ok_iff]
  unfold toChart
  cases entry.read with
  | error fault => simp
  | ok read =>
    show read.checked = .ok chart ↔ _
    rw [Chart.checked_eq_ok_iff, Except.ok.injEq]
    constructor
    · rintro ⟨rfl, hfault⟩
      exact ⟨rfl, hfault⟩
    · rintro ⟨rfl, hfault⟩
      exact ⟨rfl, hfault⟩

/-- An error names the entry. -/
theorem error_of_toChart {e : CatalogError} (h : entry.toChart = .error e) :
    ∃ fault, e = .invalidChart entry.id fault := by
  unfold toChart at h
  cases hread : entry.read with
  | error fault =>
    rw [hread] at h
    exact ⟨fault, (Except.error.inj h).symm⟩
  | ok chart =>
    rw [hread] at h
    rw [← (read_eq_ok_iff.mp hread).id_eq]
    exact Chart.error_of_checked h

/-! ## Faulty entries -/

/-- Why an entry has no chart: a field cannot be read, or is not what a chart may
have. -/
inductive Faulty (entry : Entry) : Prop
  | difficulty : Difficulty.ofText? entry.difficulty = none → Faulty entry
  | rating {given : RatingEntry} : entry.rating = some given →
    (∀ value, ¬ given.Denotes value) → Faulty entry
  | ratingNotFinite {given : RatingEntry} {value : Binary64} : entry.rating = some given →
    given.Denotes value → value.isFinite = false → Faulty entry
  | sranLevel {given : SranEntry} : entry.sranLevel = some given →
    (∀ level, ¬ given.Denotes level) → Faulty entry
  | folder {tag : String} : tag ∈ entry.folders → Folder.ofText? tag = none → Faulty entry
  | level : ¬ (lowestLevel ≤ entry.level ∧ entry.level ≤ highestLevel) → Faulty entry
  | id : entry.id = "" → Faulty entry

/-- An entry that is not faulty describes a chart. -/
theorem exists_describes (h : ¬ entry.Faulty) : ∃ chart, entry.Describes chart := by
  have hdifficulty : ∃ difficulty, Difficulty.ofText? entry.difficulty = some difficulty :=
    Option.ne_none_iff_exists'.mp fun hnone => h (.difficulty hnone)
  have hrating : ∃ rating, Option.Rel RatingEntry.Denotes entry.rating rating := by
    apply exists_rel_of_forall
    intro given hgiven
    by_contra hnone
    exact h (.rating hgiven fun value hvalue => hnone ⟨value, hvalue⟩)
  have hsranLevel : ∃ level, Option.Rel SranEntry.Denotes entry.sranLevel level := by
    apply exists_rel_of_forall
    intro given hgiven
    by_contra hnone
    exact h (.sranLevel hgiven fun level hlevel => hnone ⟨level, hlevel⟩)
  have hfolders : ∃ folders, List.Forall₂ (fun tag folder => Folder.ofText? tag = some folder)
      entry.folders folders := by
    apply exists_forall₂_of_forall
    intro tag htag
    exact Option.ne_none_iff_exists'.mp fun hnone => h (.folder htag hnone)
  obtain ⟨difficulty, hdifficulty⟩ := hdifficulty
  obtain ⟨rating, hrating⟩ := hrating
  obtain ⟨sranLevel, hsranLevel⟩ := hsranLevel
  obtain ⟨folders, hfolders⟩ := hfolders
  exact ⟨_, describes_assembled hdifficulty hrating hsranLevel hfolders⟩

theorem Describes.fault?_eq_none_iff (h : entry.Describes chart) :
    chart.fault? = none ↔ ¬ entry.Faulty := by
  rw [Chart.fault?_eq_none_iff, h.id_eq, h.level_eq]
  constructor
  · rintro ⟨hid, hlow, hhigh, hfinite⟩ hfaulty
    cases hfaulty with
    | difficulty hnone =>
      rw [h.difficulty] at hnone
      exact absurd hnone (by simp)
    | rating hgiven hnone =>
      obtain ⟨value, -, hvalue⟩ := exists_of_rel_left h.rating hgiven
      exact hnone value hvalue
    | ratingNotFinite hgiven hvalue hinfinite =>
      obtain ⟨value', hrating, hvalue'⟩ := exists_of_rel_left h.rating hgiven
      rw [hvalue.unique hvalue', hfinite value' hrating] at hinfinite
      exact absurd hinfinite (by decide)
    | sranLevel hgiven hnone =>
      obtain ⟨level, -, hlevel⟩ := exists_of_rel_left h.sranLevel hgiven
      exact hnone level hlevel
    | folder htag hnone =>
      obtain ⟨folders, hfolders, -⟩ := h.folders
      obtain ⟨folder, -, hfolder⟩ := exists_of_forall₂_left hfolders htag
      rw [hnone] at hfolder
      exact absurd hfolder (by simp)
    | level hlevel => exact hlevel ⟨hlow, hhigh⟩
    | id hempty => exact hid hempty
  · intro hgood
    refine ⟨fun hempty => hgood (.id hempty), ?_⟩
    have hlevel : lowestLevel ≤ entry.level ∧ entry.level ≤ highestLevel := by
      by_contra hlevel
      exact hgood (.level hlevel)
    refine ⟨hlevel.1, hlevel.2, fun rating hrating => ?_⟩
    obtain ⟨given, hgiven, hvalue⟩ := exists_of_rel_right h.rating hrating
    by_contra hinfinite
    exact hgood (.ratingNotFinite hgiven hvalue (by simpa using hinfinite))

/-- An entry has a chart exactly if it is not faulty. -/
theorem exists_toChart_iff : (∃ chart, entry.toChart = .ok chart) ↔ ¬ entry.Faulty := by
  constructor
  · rintro ⟨chart, h⟩
    obtain ⟨hdescribes, hfault⟩ := toChart_eq_ok_iff.mp h
    exact hdescribes.fault?_eq_none_iff.mp hfault
  · intro h
    obtain ⟨chart, hdescribes⟩ := exists_describes h
    exact ⟨chart, toChart_eq_ok_iff.mpr ⟨hdescribes, hdescribes.fault?_eq_none_iff.mpr h⟩⟩

instance (entry : Entry) : Decidable entry.Faulty :=
  decidable_of_iff (entry.toChart.toOption.isSome = false) <| by
    rw [Option.isSome_eq_false_iff, ← not_iff_not, ← exists_toChart_iff]
    cases entry.toChart <;> simp [Except.toOption]

end Entry

/-! ## Snapshots -/

variable {document : String} {entries : List Entry}

theorem parse_of_hasEntries (h : HasEntries document entries) :
    parse document = entries.mapM Entry.toChart := by
  rw [parse, entries?_eq_some_iff.mpr h]

theorem parse_of_not_hasEntries (h : ∀ entries, ¬ HasEntries document entries) :
    parse document = .error .malformedJson := by
  have hnone : entries? document = none := by
    apply Option.eq_none_iff_forall_ne_some.mpr
    intro entries hentries
    exact h entries (entries?_eq_some_iff.mp hentries)
  rw [parse, hnone]

/-- Reading a snapshot is all or nothing. A document that is no array of entries is
refused as such, and only such a document is. If it is one, the first faulty entry in
the order of the document is the error, named by its id; and if no entry is faulty,
every entry has the chart that it describes, in the same order. -/
theorem parse_allOrNothing (document : String) :
    (parse document = .error .malformedJson ↔ ∀ entries, ¬ HasEntries document entries) ∧
    ∀ entries, HasEntries document entries →
      (∀ before entry after, entries = before ++ entry :: after →
        (∀ other ∈ before, ¬ other.Faulty) → entry.Faulty →
          ∃ fault, parse document = .error (.invalidChart entry.id fault)) ∧
      ((∀ entry ∈ entries, ¬ entry.Faulty) → ∃ charts, parse document = .ok charts ∧
        List.Forall₂ Entry.Describes entries charts) := by
  refine ⟨⟨fun h entries hentries => ?_, parse_of_not_hasEntries⟩, fun entries hentries => ⟨?_, ?_⟩⟩
  · rw [parse_of_hasEntries hentries, mapM_eq_error_iff] at h
    obtain ⟨before, entry, after, -, -, herror⟩ := h
    obtain ⟨fault, hfault⟩ := Entry.error_of_toChart herror
    exact absurd hfault (by simp)
  · rintro before entry after rfl hbefore hfaulty
    rw [parse_of_hasEntries hentries]
    cases hchart : entry.toChart with
    | ok chart => exact absurd hfaulty (Entry.exists_toChart_iff.mp ⟨chart, hchart⟩)
    | error e =>
      obtain ⟨fault, rfl⟩ := Entry.error_of_toChart hchart
      refine ⟨fault, mapM_eq_error_iff.mpr ⟨before, entry, after, rfl, ?_, hchart⟩⟩
      intro other hother
      exact Entry.exists_toChart_iff.mpr (hbefore other hother)
  · intro hgood
    rw [parse_of_hasEntries hentries]
    obtain ⟨charts, hcharts⟩ := exists_forall₂_of_forall
      (r := fun entry chart => Entry.toChart entry = .ok chart)
      fun entry hentry => Entry.exists_toChart_iff.mpr (hgood entry hentry)
    refine ⟨charts, mapM_eq_ok_iff_forall₂.mpr hcharts, ?_⟩
    exact hcharts.imp fun entry chart h => (Entry.toChart_eq_ok_iff.mp h).1

/-- An item with a song id in digits, a repeated folder and a debut that is a label. -/
def soundItem : String :=
  "\x7b\"id\":\"7n\",\"sid\":7,\"diff\":\"n\",\"lv\":15," ++
    "\"debut\":\"eemall\",\"folders\":[\"10\",\"5\",\"10\"]\x7d"

/-- An item of the right form with a level out of range. -/
def faultyItem : String :=
  "\x7b\"id\":\"8n\",\"sid\":\"8\",\"diff\":\"n\",\"lv\":51\x7d"

/-- The entry of `soundItem`. -/
def soundEntry : Entry where
  id := "7n"
  songId := "7"
  difficulty := "n"
  level := 15
  tempo := none
  notes := none
  holds := 0
  duration := none
  rating := none
  sranLevel := none
  title := ""
  genre := ""
  artist := ""
  debut := some "eemall"
  folders := ["10", "5", "10"]
  labels := []

/-- The entry of `faultyItem`. -/
def faultyEntry : Entry :=
  { soundEntry with id := "8n", songId := "8", level := 51, debut := none, folders := [] }

theorem parse_soundAndFaulty :
    (HasEntries ("[" ++ soundItem ++ "]") [soundEntry] ∧
      ∃ charts, parse ("[" ++ soundItem ++ "]") = .ok charts ∧
        List.Forall₂ Entry.Describes [soundEntry] charts) ∧
    (HasEntries ("[" ++ soundItem ++ "," ++ faultyItem ++ "]") [soundEntry, faultyEntry] ∧
      ∃ fault, parse ("[" ++ soundItem ++ "," ++ faultyItem ++ "]") =
        .error (.invalidChart "8n" fault)) ∧
    parse ("[" ++ faultyItem ++ ",0]") = .error .malformedJson := by
  have hsound : HasEntries ("[" ++ soundItem ++ "]") [soundEntry] :=
    entries?_eq_some_iff.mp (by decide +kernel)
  have hboth : HasEntries ("[" ++ soundItem ++ "," ++ faultyItem ++ "]")
      [soundEntry, faultyEntry] :=
    entries?_eq_some_iff.mp (by decide +kernel)
  have hneither : ∀ entries, ¬ HasEntries ("[" ++ faultyItem ++ ",0]") entries := by
    intro entries h
    rw [← entries?_eq_some_iff,
      show entries? ("[" ++ faultyItem ++ ",0]") = none by decide +kernel] at h
    exact absurd h (by simp)
  refine ⟨⟨hsound, ?_⟩, ⟨hboth, ?_⟩, ?_⟩
  · exact ((parse_allOrNothing _).2 _ hsound).2 (by decide +kernel)
  · exact ((parse_allOrNothing _).2 _ hboth).1 [soundEntry] faultyEntry [] rfl
      (by decide +kernel) (by decide +kernel)
  · exact (parse_allOrNothing _).1.mpr hneither

end ChartCatalog.Snapshot
