import ChartCatalog.Catalog
import ChartCatalog.Chart.Basic
import ChartCatalog.Chart.Record
import ChartCatalog.CommandLine.Invocation
import ChartCatalog.CommandLine.Options
import ChartCatalog.CommandLine.Response
import ChartCatalog.Comparison
import ChartCatalog.Condition.Basic
import ChartCatalog.Condition.Grammar
import ChartCatalog.Difficulty
import ChartCatalog.Distinct
import ChartCatalog.Error
import ChartCatalog.Flag
import ChartCatalog.Folder
import ChartCatalog.Hardest
import ChartCatalog.Json.Document
import ChartCatalog.Json.Layout
import ChartCatalog.Json.Literal
import ChartCatalog.Json.Record
import ChartCatalog.Json.Token
import ChartCatalog.Json.Value
import ChartCatalog.LabelSet
import ChartCatalog.Listing
import ChartCatalog.Main
import ChartCatalog.Number.Binary64
import ChartCatalog.Number.Numeral
import ChartCatalog.Number.PowerOfTen
import ChartCatalog.Number.Rounding
import ChartCatalog.Number.Scaled
import ChartCatalog.Number.Shortest
import ChartCatalog.Proofs.Catalog.AddedClause
import ChartCatalog.Proofs.Catalog.Build
import ChartCatalog.Proofs.Catalog.ClauseOrder
import ChartCatalog.Proofs.Catalog.Exclusions
import ChartCatalog.Proofs.Catalog.FilterText
import ChartCatalog.Proofs.Catalog.Find
import ChartCatalog.Proofs.Catalog.FirstOffence
import ChartCatalog.Proofs.Catalog.Hardest
import ChartCatalog.Proofs.Catalog.Locality
import ChartCatalog.Proofs.Catalog.Meaning
import ChartCatalog.Proofs.Catalog.Opposite
import ChartCatalog.Proofs.Catalog.Sample
import ChartCatalog.Proofs.Chart.Collections
import ChartCatalog.Proofs.Chart.Edits
import ChartCatalog.Proofs.Chart.Record
import ChartCatalog.Proofs.Condition.Blanks
import ChartCatalog.Proofs.Condition.Clause
import ChartCatalog.Proofs.Condition.HalfLevel
import ChartCatalog.Proofs.Condition.Operand
import ChartCatalog.Proofs.Condition.RoundTrip
import ChartCatalog.Proofs.Condition.Shape
import ChartCatalog.Proofs.Condition.ShapeOrder
import ChartCatalog.Proofs.Field.Exact
import ChartCatalog.Proofs.Field.Spelling
import ChartCatalog.Proofs.Json.Document
import ChartCatalog.Proofs.Json.Literal
import ChartCatalog.Proofs.Json.Rating
import ChartCatalog.Proofs.Json.Token
import ChartCatalog.Proofs.Number.Decimals
import ChartCatalog.Proofs.Number.HalfEven
import ChartCatalog.Proofs.Number.Nearest
import ChartCatalog.Proofs.Number.Positional
import ChartCatalog.Proofs.Query.And
import ChartCatalog.Proofs.Query.Effective
import ChartCatalog.Proofs.Query.Parse
import ChartCatalog.Proofs.Query.Respelling
import ChartCatalog.Proofs.Query.RoundTrip
import ChartCatalog.Proofs.Query.WellFormed
import ChartCatalog.Proofs.Rating.Listed
import ChartCatalog.Proofs.Rating.ReadBack
import ChartCatalog.Proofs.Rating.Rounding
import ChartCatalog.Proofs.Rating.Text
import ChartCatalog.Proofs.Sampling.Shuffle
import ChartCatalog.Proofs.Selection.Conditions
import ChartCatalog.Proofs.Selection.Meaning
import ChartCatalog.Proofs.Selection.Record
import ChartCatalog.Proofs.Snapshot.Catalog
import ChartCatalog.Proofs.Snapshot.Charts
import ChartCatalog.Proofs.Tempo.Runs
import ChartCatalog.Proofs.Tempo.Values
import ChartCatalog.Proofs.Text.CharClass
import ChartCatalog.Proofs.Text.LetterCase
import ChartCatalog.Proofs.Text.Spaced
import ChartCatalog.Proofs.Token.Lawful
import ChartCatalog.Proofs.Token.Lexeme
import ChartCatalog.Proofs.Token.Lossless
import ChartCatalog.Proofs.Token.Scan
import ChartCatalog.Proofs.Token.Shape
import ChartCatalog.Proofs.Traversal
import ChartCatalog.Query
import ChartCatalog.Rating
import ChartCatalog.Sampling
import ChartCatalog.Selection.Basic
import ChartCatalog.Selection.Record
import ChartCatalog.Snapshot
import ChartCatalog.SranLevel
import ChartCatalog.Tempo
import ChartCatalog.Text.AsciiCase
import ChartCatalog.Text.Blank
import ChartCatalog.Text.CaseContext
import ChartCatalog.Text.CharSet
import ChartCatalog.Text.Column
import ChartCatalog.Text.DecimalDigit
import ChartCatalog.Text.Digits
import ChartCatalog.Text.LowerCase
import ChartCatalog.Text.LowerCaseTable
import ChartCatalog.Text.Quoted
import ChartCatalog.Text.Split
import ChartCatalog.Text.Unprintable
import ChartCatalog.Token
