import ChartCatalog.Chart.Basic
import ChartCatalog.Json.Record

/-!
# Charts as records

The JSON form of a chart and of its fields. `Chart.toJson` writes a record with
all fields in order; `Chart.ofJson?` reads one, in which optional fields may be
missing and codes may have any of their spellings. Reading checks the form
alone: a chart with a fault is read like any other.
-/

namespace ChartCatalog

open Json

namespace Difficulty

/-- The code as a JSON value. -/
def toJson (difficulty : Difficulty) : Json := .ofString difficulty.code

/-- The difficulty of a code. -/
def ofJson? (value : Json) : Option Difficulty := value.name?.bind ofCode?

end Difficulty

namespace SranLevel

/-- The code as a JSON value. -/
def toJson (level : SranLevel) : Json := .ofString level.code

/-- The level of a spelling. -/
def ofJson? (value : Json) : Option SranLevel := value.text?.bind ofText?

end SranLevel

namespace Folder

/-- The tag as a JSON value. -/
def toJson (folder : Folder) : Json := .ofString folder.text

/-- The folder of a tag. -/
def ofJson? (value : Json) : Option Folder := value.text?.bind ofText?

end Folder

namespace Chart

/-- The names of the fields, in order. -/
def fieldNames : List String :=
  ["id", "song_id", "difficulty", "level", "rating", "sran_level", "bpm", "has_holds", "folders",
    "song_labels", "title", "genre", "artist", "notes", "duration"]

/-- The record of a chart. -/
def toJson (chart : Chart) : Json :=
  .ofRecord [
    ("id", .ofString chart.id),
    ("song_id", .ofString chart.songId),
    ("difficulty", chart.difficulty.toJson),
    ("level", .ofNat chart.level.toNat),
    ("rating", .ofOption .ofBinary64 chart.rating),
    ("sran_level", .ofOption SranLevel.toJson chart.sranLevel),
    ("bpm", .ofString chart.tempo),
    ("has_holds", .bool chart.hasHolds),
    ("folders", .ofList Folder.toJson chart.folders),
    ("song_labels", .ofList .ofString chart.songLabels.toList),
    ("title", .ofString chart.title),
    ("genre", .ofString chart.genre),
    ("artist", .ofString chart.artist),
    ("notes", .ofOption (fun n => .ofNat n.toNat) chart.notes),
    ("duration", .ofOption (fun n => .ofNat n.toNat) chart.duration)]

/-- The chart of a record. -/
def ofJson? (value : Json) : Option Chart := do
  let record ← Record.ofJson? fieldNames value
  let id ← record.required "id" text?
  let songId ← record.required "song_id" text?
  let difficulty ← record.required "difficulty" Difficulty.ofJson?
  let level ← record.required "level" uint8?
  let rating ← record.optional "rating" binary64?
  let sranLevel ← record.optional "sran_level" SranLevel.ofJson?
  let tempo ← record.required "bpm" text?
  let hasHolds ← record.required "has_holds" bool?
  let folders ← record.required "folders" (list? Folder.ofJson?)
  let songLabels ← record.required "song_labels" (list? text?)
  let title ← record.required "title" text?
  let genre ← record.required "genre" text?
  let artist ← record.required "artist" text?
  let notes ← record.optional "notes" uint32?
  let duration ← record.optional "duration" uint32?
  some {
    id := id
    songId := songId
    difficulty := difficulty
    level := level
    rating := rating
    sranLevel := sranLevel
    tempo := tempo
    hasHolds := hasHolds
    folders := folders
    songLabels := .ofList songLabels
    title := title
    genre := genre
    artist := artist
    notes := notes
    duration := duration }

end Chart

end ChartCatalog
