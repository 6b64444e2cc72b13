import ChartCatalog.Catalog
import ChartCatalog.CommandLine.Invocation
import ChartCatalog.Json.Layout
import ChartCatalog.Listing
import ChartCatalog.Snapshot

/-!
# Responses

What the program answers to an invocation: an exit code and the two outputs.
`respond` is a function of the arguments, of the files that can be read and of a
seed for choices without one, so nothing about the program remains outside it but
reading and writing.
-/

namespace ChartCatalog.CommandLine

open Text

/-- The answer of the program. -/
structure Response where
  exitCode : UInt8
  output : String
  errors : String

/-- A file's content, or the reason why it cannot be read. -/
abbrev FileReader := String → Except String ByteArray

/-! ## Failures -/

/-- A failure in words, and its causes from the outermost inwards. -/
structure Failure where
  message : String
  causes : List String := []

/-- The causes of an error: what a file or document could not be read for is a
cause of its own. -/
def errorCauses (error : CatalogError) : List String :=
  match error with
  | .unreadableFile reason => [error.message, reason]
  | .malformedJson => [error.message, "not a document of the expected form"]
  | _ => [error.message]

/-- A text with every line after the first one moved right. -/
def hanging (width : Nat) (s : String) : List Char :=
  s.toList.flatMap fun c => if c = '\n' then '\n' :: List.replicate width ' ' else [c]

/-- The lines of the causes, numbered if there are several. -/
def causeLines (causes : List String) : String :=
  match causes with
  | [cause] => "\n    " ++ String.ofList (hanging 4 cause)
  | _ => String.join (causes.mapIdx fun i cause =>
      "\n" ++ String.ofList (alignRight 5 (digits i)) ++ ": " ++ String.ofList (hanging 7 cause))

/-- The failure as it is reported. -/
def Failure.report (failure : Failure) : String :=
  "Error: " ++ failure.message ++
    (if failure.causes = [] then "" else "\n\nCaused by:" ++ causeLines failure.causes) ++ "\n"

/-- An error that has no causes to tell. -/
def Failure.ofError (error : CatalogError) : Failure := { message := error.message }

/-! ## Running a command -/

/-- The catalog in a file. -/
def loadCatalog (files : FileReader) (path : Option String) : Except Failure Catalog :=
  match path with
  | none =>
    .error { message := "No catalog given; pass --catalog FILE or set POPN_CATALOG" }
  | some path =>
    let charts := match files path with
      | .ok bytes => Snapshot.ofBytes bytes
      | .error reason => .error (.unreadableFile reason)
    match charts with
    | .error e =>
      .error { message := "Failed to load catalog from " ++ path, causes := errorCauses e }
    | .ok charts => (Catalog.ofCharts charts).mapError .ofError

/-- Charts as a listing or as a document. -/
def chartsText (charts : List Chart) (json : Bool) : String :=
  (if json then (Json.ofList Chart.toJson charts).pretty else listing charts) ++ "\n"

/-- The charts found for ids, or `null` and a note for ids without a chart. -/
def findText (ids : List String) (charts : List (Option Chart)) (json : Bool) : String :=
  if json then (Json.ofList (Json.ofOption Chart.toJson) charts).pretty ++ "\n"
  else String.join ((ids.zip charts).map fun (id, chart) =>
    match chart with
    | some chart => chart.line ++ "\n"
    | none => id ++ ": not found\n")

/-- How a filter is understood: a line for each condition, and the filter with
its exclusions. -/
def parseText (query : Query) : String :=
  if query.isEmpty then "(empty filter: matches nothing)\n"
  else String.join (query.conditions.map fun condition =>
      leftColumn 10 condition.kind ++ " " ++ condition.text ++ "\n") ++
    "effective: " ++ query.effective.text ++ "\n"

/-- The two outputs of a command, or its failure. -/
def execute (files : FileReader) (seed : UInt64) (invocation : Invocation) :
    Except Failure (String × String) := do
  match invocation.command with
  | .find ids json =>
    let catalog ← loadCatalog files invocation.catalog
    return (findText ids (catalog.findAll ids) json, "")
  | .query filter json =>
    let catalog ← loadCatalog files invocation.catalog
    let charts ← (catalog.query filter).mapError .ofError
    return (chartsText charts json, "")
  | .sample filter count given json =>
    let catalog ← loadCatalog files invocation.catalog
    let start := (given.map UInt64.ofNat).getD seed
    let (charts, _) := catalog.sampleFilter WordSource.mixing.chooser count filter start
    return (chartsText (← charts.mapError .ofError) json, "")
  | .filter selection difficulties showQuery json =>
    let selection ← (selectDifficulties selection difficulties).mapError fun letter =>
      { message := "Unknown difficulty letter '" ++ String.singleton letter ++
          "' (expected e, n, h or x)" }
    let catalog ← loadCatalog files invocation.catalog
    return (chartsText (catalog.select selection) json,
      if showQuery then "query: " ++ selection.filterText ++ "\n" else "")
  | .parse filter =>
    let query ← (Query.parse filter).mapError .ofError
    return (parseText query, "")

/-- The name and version of the program. -/
def versionText : String := "popn 0.2.0\n"

/-- How the program is called. -/
def usageText : String :=
  "Query pop'n music chart catalogs\n\n" ++
  "Usage: popn [--catalog FILE] COMMAND\n\n" ++
  "Commands:\n" ++
  "  find IDS... [--json]                          Look up charts by id\n" ++
  "  query FILTER [--json]                         List charts matching a filter string\n" ++
  "  sample FILTER [-n COUNT] [--seed N] [--json]  Pick random charts\n" ++
  "  filter [OPTIONS]                              List charts matching structured bounds\n" ++
  "  parse FILTER                                  Show how a filter string is understood\n"

/-- The answer to a list of arguments. -/
def respond (files : FileReader) (seed : UInt64) (environment : Option String)
    (arguments : List String) : Response :=
  match Reading.ofArguments arguments environment with
  | .run invocation =>
    match execute files seed invocation with
    | .ok (output, errors) => ⟨0, output, errors⟩
    | .error failure => ⟨1, "", failure.report⟩
  | .version => ⟨0, versionText, ""⟩
  | .help => ⟨0, usageText, ""⟩
  | .misuse => ⟨2, "", "error: unexpected arguments\n\n" ++ usageText⟩

/-- The file that the answer to a list of arguments depends on. -/
def fileNeeded (environment : Option String) (arguments : List String) : Option String :=
  match Reading.ofArguments arguments environment with
  | .run invocation =>
    match invocation.command with
    | .parse _ => none
    | _ => invocation.catalog
  | _ => none

end ChartCatalog.CommandLine
