import ChartCatalog.Condition.Grammar

/-!
# Queries

A query is a conjunction of conditions, written as clauses with commas between
them. Blank clauses are skipped, and the empty query matches nothing, so a
blank filter never lists the whole catalog.

Charts with certain flags are left out of every result unless the query names
the flag; `Query.effective` makes that explicit by appending the exclusions.
-/

namespace ChartCatalog

open Text

/-- A conjunction of conditions. -/
structure Query where
  conditions : List Condition
  deriving DecidableEq

namespace Query

/-- The query without conditions. -/
def empty : Query := ⟨[]⟩

/-- Are there no conditions? -/
def isEmpty (query : Query) : Bool := query.conditions.isEmpty

/-! ## Text -/

/-- The mark between two clauses. -/
def separator : Char := ','

/-- The clauses of a filter that are not blank. -/
def clauses (filter : String) : List String :=
  ((splitOn separator filter.toList).filter (!isBlankText ·)).map String.ofList

/-- The query of a filter; the first clause that is no condition is the error. -/
def parse (filter : String) : Except CatalogError Query :=
  ((clauses filter).mapM Condition.parse).map Query.mk

/-- The query as a filter. -/
def text (query : Query) : String :=
  String.ofList (join [separator] (query.conditions.map (·.text.toList)))

/-! ## Default exclusions -/

/-- Does some condition name the flag without forbidding it? -/
def optsInto (query : Query) (flag : Flag) : Bool :=
  query.conditions.any fun
    | .flag clause => clause.optsInto flag
    | _ => false

/-- The conditions that forbid the flags left out by default, as far as the
query does not opt into them. -/
def exclusions (query : Query) : List Condition :=
  (Flag.excludedByDefault.filter (!query.optsInto ·)).map fun flag => .flag ⟨flag, .forbid⟩

/-- The query with its exclusions; the empty query stays empty. -/
def effective (query : Query) : Query :=
  if query.isEmpty then empty else ⟨query.conditions ++ query.exclusions⟩

/-! ## Meaning -/

/-- Does the chart satisfy every condition of a query that has any? -/
def accepts (query : Query) (chart : Chart) (hardest : HardestOf) : Bool :=
  !query.isEmpty && query.conditions.all (·.accepts chart hardest)

end Query

end ChartCatalog
