import ChartCatalog.Chart.Record
import ChartCatalog.Json.Document
import ChartCatalog.Number.Numeral

/-!
# Snapshots

A snapshot is a JSON document that lists the charts of a catalog. Several
generations of snapshots exist, so some fields have more than one form: song ids
are texts or numbers, ratings are numbers or numerals, and so are sran levels.

Reading has two stages. `Snapshot.entries?` reads the whole document as a list
of entries and knows only one error, a document of another form. `Entry.toChart`
turns an entry into a chart and can refuse it. So a malformed document is
reported as such even if an entry before the malformed part is refused.
-/

namespace ChartCatalog.Snapshot

open Json Number Text

/-- A rating as an entry gives it. -/
inductive RatingEntry
  | number (value : Binary64)
  | text (numeral : String)

/-- A sran level as an entry gives it. -/
inductive SranEntry
  | number (value : UInt8)
  | text (spelling : String)

/-- One chart of a snapshot. -/
structure Entry where
  id : String
  songId : String
  difficulty : String
  level : UInt8
  tempo : Option String
  notes : Option UInt32
  /-- The number of hold notes. -/
  holds : UInt32
  duration : Option UInt32
  rating : Option RatingEntry
  sranLevel : Option SranEntry
  title : String
  genre : String
  artist : String
  /-- The release in which the chart first appeared. -/
  debut : Option String
  folders : List String
  labels : List String

/-! ## Reading entries -/

/-- A song id: a text, or a number of 64 bits in digits. -/
def songId? (value : Json) : Option String :=
  value.text?.or ((value.natBelow? UInt64.size).map fun n => String.ofList (digits n))

/-- A tempo: a record with the display. -/
def tempo? (value : Json) : Option String := do
  let record ← Record.ofJson? ["disp"] value
  record.required "disp" text?

/-- A rating in either form. -/
def ratingEntry? (value : Json) : Option RatingEntry :=
  (value.binary64?.map .number).or (value.text?.map .text)

/-- A sran level in either form. -/
def sranEntry? (value : Json) : Option SranEntry :=
  (value.uint8?.map .number).or (value.text?.map .text)

/-- What the community says about a chart: its rating and sran level. -/
def community? (value : Json) : Option (Option RatingEntry × Option SranEntry) := do
  let record ← Record.ofJson? ["rating", "srlv"] value
  let rating ← record.defaulted "rating" none (nullable? ratingEntry?)
  let sranLevel ← record.defaulted "srlv" none (nullable? sranEntry?)
  some (rating, sranLevel)

/-- The names of the fields of an entry, in order. -/
def entryFieldNames : List String :=
  ["id", "sid", "diff", "lv", "bpm", "notes", "holds", "dur", "jk", "title", "genre", "artist",
    "debut", "folders", "labels"]

/-- The entry of a record. -/
def entry? (value : Json) : Option Entry := do
  let record ← Record.ofJson? entryFieldNames value
  let id ← record.required "id" text?
  let songId ← record.required "sid" songId?
  let difficulty ← record.required "diff" text?
  let level ← record.required "lv" uint8?
  let tempo ← record.defaulted "bpm" none (nullable? tempo?)
  let notes ← record.defaulted "notes" none (nullable? uint32?)
  let holds ← record.defaulted "holds" 0 uint32?
  let duration ← record.defaulted "dur" none (nullable? uint32?)
  let community ← record.defaulted "jk" none (nullable? community?)
  let title ← record.defaulted "title" "" text?
  let genre ← record.defaulted "genre" "" text?
  let artist ← record.defaulted "artist" "" text?
  let debut ← record.defaulted "debut" none (nullable? text?)
  let folders ← record.defaulted "folders" [] (list? text?)
  let labels ← record.defaulted "labels" [] (list? text?)
  some {
    id := id
    songId := songId
    difficulty := difficulty
    level := level
    tempo := tempo
    notes := notes
    holds := holds
    duration := duration
    rating := community.bind (·.1)
    sranLevel := community.bind (·.2)
    title := title
    genre := genre
    artist := artist
    debut := debut
    folders := folders
    labels := labels }

/-- The entries of a document. -/
def entries? (document : String) : Option (List Entry) :=
  (Json.parse? document).bind (list? entry?)

/-! ## From entries to charts -/

/-- The rating of an entry. A numeral may have blanks around it. -/
def RatingEntry.toRating : RatingEntry → Except ChartFault Binary64
  | number value => .ok value
  | text numeral =>
    match Binary64.ofText? (trim numeral.toList) with
    | some value => .ok value
    | none => .error (.ratingUnreadable numeral)

/-- The sran level of an entry. -/
def SranEntry.toSranLevel : SranEntry → Except FieldError SranLevel
  | number value => SranLevel.parseNumber value.toNat
  | text spelling => SranLevel.parse spelling

/-- The labels that follow from the debut. -/
def debutLabels : Option String → List String
  | some "cslively" => ["lively"]
  | some "eemall" => ["eemall"]
  | _ => []

namespace Entry

/-- The chart of an entry, or the first field that cannot be read: difficulty,
rating, sran level, folders, in this order. -/
def read (entry : Entry) : Except ChartFault Chart := do
  let difficulty ← (Difficulty.parse entry.difficulty).mapError .field
  let rating ← entry.rating.mapM RatingEntry.toRating
  let sranLevel ← (entry.sranLevel.mapM SranEntry.toSranLevel).mapError .field
  let folders ← (entry.folders.mapM Folder.parse).mapError .field
  return {
    id := entry.id
    songId := entry.songId
    difficulty := difficulty
    level := entry.level
    rating := rating
    sranLevel := sranLevel
    tempo := entry.tempo.getD ""
    hasHolds := 0 < entry.holds
    folders := distinct folders
    songLabels := (LabelSet.ofList entry.labels).insertAll (debutLabels entry.debut)
    title := entry.title
    genre := entry.genre
    artist := entry.artist
    notes := entry.notes
    duration := entry.duration }

/-- The chart of an entry, if all of its fields can be read and it has no fault. -/
def toChart (entry : Entry) : Except CatalogError Chart :=
  match entry.read with
  | .ok chart => chart.checked
  | .error fault => .error (.invalidChart entry.id fault)

end Entry

/-- The charts of a snapshot. -/
def parse (document : String) : Except CatalogError (List Chart) :=
  match entries? document with
  | some entries => entries.mapM Entry.toChart
  | none => .error .malformedJson

/-- The charts of a snapshot file. -/
def ofBytes (bytes : ByteArray) : Except CatalogError (List Chart) :=
  match String.fromUTF8? bytes with
  | some document => parse document
  | none => .error (.unreadableFile "stream did not contain valid UTF-8")

end ChartCatalog.Snapshot
