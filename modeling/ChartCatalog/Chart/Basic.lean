import ChartCatalog.Difficulty
import ChartCatalog.Distinct
import ChartCatalog.Error
import ChartCatalog.Folder
import ChartCatalog.LabelSet
import ChartCatalog.SranLevel
import ChartCatalog.Tempo

/-!
# Charts

A `Chart` is one playable difficulty of a song. Its fields are whatever a record
says; `fault?` names the first reason why a chart may not enter a catalog, and
`checked` lets only charts without a fault pass.

Charts are put together from a draft by edits. An edit sets one field, adds a
folder unless the chart is in it already, or adds labels.
-/

namespace ChartCatalog

open Number

/-- One playable difficulty of a song. -/
structure Chart where
  id : String
  songId : String
  difficulty : Difficulty
  level : UInt8
  /-- The fine adjustment around the level, for charts that are rated. -/
  rating : Option Binary64
  sranLevel : Option SranLevel
  /-- The tempo as the game shows it. -/
  tempo : String
  hasHolds : Bool
  folders : List Folder
  songLabels : LabelSet
  title : String
  genre : String
  artist : String
  notes : Option UInt32
  /-- The length in seconds. -/
  duration : Option UInt32
  deriving DecidableEq

namespace Chart

/-- Does the chart's song carry the label? -/
def hasLabel (chart : Chart) (label : String) : Bool := chart.songLabels.contains label

/-- Is the chart filed in the folder? -/
def inFolder (chart : Chart) (folder : Folder) : Bool := chart.folders.contains folder

/-! ## Faults -/

/-- The first reason to refuse the chart: an empty id, a level out of range, or
a rating that is no number. -/
def fault? (chart : Chart) : Option ChartFault :=
  if chart.id = "" then some .emptyId
  else if ¬ (lowestLevel ≤ chart.level ∧ chart.level ≤ highestLevel) then
    some (.levelOutOfRange chart.level)
  else match chart.rating with
    | some rating => if rating.isFinite then none else some (.ratingNotFinite rating)
    | none => none

/-- The chart, if it has no fault. -/
def checked (chart : Chart) : Except CatalogError Chart :=
  match chart.fault? with
  | none => .ok chart
  | some fault => .error (.invalidChart chart.id fault)

/-! ## Drafts and edits -/

/-- A chart of which only the four given fields are known. -/
def draft (id songId : String) (difficulty : Difficulty) (level : UInt8) : Chart where
  id := id
  songId := songId
  difficulty := difficulty
  level := level
  rating := none
  sranLevel := none
  tempo := ""
  hasHolds := false
  folders := []
  songLabels := .empty
  title := ""
  genre := ""
  artist := ""
  notes := none
  duration := none

/-- A change of one field of a chart. -/
inductive Edit
  | rating (rating : Binary64)
  | sranLevel (level : SranLevel)
  | tempo (display : String)
  | holds (hasHolds : Bool)
  | folder (folder : Folder)
  | label (label : String)
  | labels (labels : List String)
  | title (text : String)
  | genre (text : String)
  | artist (text : String)
  | notes (count : UInt32)
  | duration (seconds : UInt32)

/-- The chart after an edit. -/
def apply (chart : Chart) : Edit → Chart
  | .rating rating => { chart with rating := some rating }
  | .sranLevel level => { chart with sranLevel := some level }
  | .tempo display => { chart with tempo := display }
  | .holds hasHolds => { chart with hasHolds := hasHolds }
  | .folder folder => { chart with folders := pushNew chart.folders folder }
  | .label label => { chart with songLabels := chart.songLabels.insert label }
  | .labels labels => { chart with songLabels := chart.songLabels.insertAll labels }
  | .title text => { chart with title := text }
  | .genre text => { chart with genre := text }
  | .artist text => { chart with artist := text }
  | .notes count => { chart with notes := some count }
  | .duration seconds => { chart with duration := some seconds }

/-- The chart after a list of edits. -/
def applyAll (chart : Chart) (edits : List Edit) : Chart := edits.foldl apply chart

end Chart

end ChartCatalog
