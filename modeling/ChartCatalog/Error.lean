import ChartCatalog.Number.Shortest
import ChartCatalog.Text.Quoted
import ChartCatalog.Text.Split

/-!
# What can go wrong

`CatalogError` has one constructor for each cause, with what a caller needs to
act on it; the functions `message` are the only places where causes are put into
words. A text that names no difficulty, level or folder is a `FieldError`; a
chart is refused for a `ChartFault`, and the message then names the chart.
-/

namespace ChartCatalog

open Number Text

/-- A text that names nothing of the kind that is wanted. -/
inductive FieldError
  | difficulty (text : String)
  | sranLevel (text : String)
  | folder (text : String)
  deriving DecidableEq

/-- Why a chart is refused. -/
inductive ChartFault
  | emptyId
  | levelOutOfRange (level : UInt8)
  | ratingNotFinite (rating : Binary64)
  | ratingUnreadable (text : String)
  | field (error : FieldError)
  deriving DecidableEq

/-- Why a filter, a record or a catalog is refused. -/
inductive CatalogError
  | invalidCondition (clause : String) (tokens : List String)
  | invalidField (error : FieldError)
  | invalidChart (id : String) (fault : ChartFault)
  | duplicateChartId (id : String)
  | unreadableFile (reason : String)
  | malformedJson
  deriving DecidableEq

/-- The lowest level of a chart. -/
def lowestLevel : UInt8 := 1

/-- The highest level of a chart. -/
def highestLevel : UInt8 := 50

/-- A level in digits. -/
def levelText (level : UInt8) : String := String.ofList (digits level.toNat)

/-- The error in words. -/
def FieldError.message : FieldError → String
  | difficulty text => "Invalid difficulty: " ++ text
  | sranLevel text => "Invalid sran level: " ++ text
  | folder text => "Invalid folder: " ++ text

/-- The fault in words. -/
def ChartFault.message : ChartFault → String
  | emptyId => "empty id"
  | levelOutOfRange level =>
    "level " ++ levelText level ++ " outside " ++ levelText lowestLevel ++ "..=" ++
      levelText highestLevel
  | ratingNotFinite rating => "non-finite rating " ++ String.ofList rating.positionalText
  | ratingUnreadable text => "invalid rating " ++ String.ofList (quoted text.toList)
  | field error => error.message

/-- The error in words. -/
def CatalogError.message : CatalogError → String
  | invalidCondition clause tokens =>
    "Invalid condition: [" ++ clause ++ "]: tokenized as [" ++ ",".intercalate tokens ++ "]"
  | invalidField error => error.message
  | invalidChart id fault => "Invalid chart " ++ id ++ ": " ++ fault.message
  | duplicateChartId id => "Duplicate chart id: " ++ id
  | unreadableFile reason => "IO error: " ++ reason
  | malformedJson => "JSON error: not a document of the expected form"

end ChartCatalog
