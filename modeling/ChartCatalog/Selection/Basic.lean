import ChartCatalog.Query
import ChartCatalog.Text.AsciiCase

/-!
# Structured selections

A selection states the common filters as bounds and switches instead of
clauses. It is turned into a query (`Selection.toQuery`), so that both ways of
asking share one meaning, and the query can be shown as a filter.
-/

namespace ChartCatalog

open Number

/-- What to do with the charts of which a fact holds. -/
inductive Inclusion
  /-- The fact does not matter. -/
  | any
  /-- Leave these charts out. -/
  | without
  /-- Keep these charts alone. -/
  | only
  deriving DecidableEq

namespace Inclusion

/-- The name in records and on the command line. -/
def name : Inclusion → String
  | any => "include"
  | without => "exclude"
  | only => "only"

/-- The inclusion with exactly this name. -/
def ofName? : String → Option Inclusion
  | "include" => some any
  | "exclude" => some without
  | "only" => some only
  | _ => none

/-- The inclusion of a name in any ASCII letter case. -/
def ofText? (s : String) : Option Inclusion := ofName? (Text.asciiLowerString s)

/-- The flag clause that says the same. -/
def polarity : Inclusion → Polarity
  | any => .allow
  | without => .forbid
  | only => .require

@[simp] theorem ofName?_name (inclusion : Inclusion) :
    ofName? inclusion.name = some inclusion := by
  cases inclusion <;> rfl

end Inclusion

/-- Bounds and switches that select charts. -/
structure Selection where
  levelMin : UInt8 := lowestLevel
  levelMax : UInt8 := highestLevel
  ratingMin : Option Binary64 := none
  ratingMax : Option Binary64 := none
  sranLevelMin : Option SranLevel := none
  sranLevelMax : Option SranLevel := none
  includeEasy : Bool := true
  includeNormal : Bool := true
  includeHyper : Bool := true
  includeExtra : Bool := true
  hardest : Inclusion := .any
  floorInfection : Inclusion := .any
  buggedTempo : Inclusion := .any
  tempoChanges : Inclusion := .any
  holds : Inclusion := .any
  upper : Inclusion := .any
  ura : Inclusion := .any
  omnimix : Inclusion := .without
  lively : Inclusion := .without
  deriving DecidableEq

namespace Selection

/-- Is the difficulty switched on? -/
def includes (selection : Selection) : Difficulty → Bool
  | .easy => selection.includeEasy
  | .normal => selection.includeNormal
  | .hyper => selection.includeHyper
  | .extra => selection.includeExtra

/-- The difficulties that are switched on, ascending. -/
def difficulties (selection : Selection) : List Difficulty :=
  Difficulty.all.filter selection.includes

/-- The inclusions with their flags, in the order of their clauses. -/
def inclusions (selection : Selection) : List (Flag × Inclusion) :=
  [(.hardest, selection.hardest),
   (.floorInfection, selection.floorInfection),
   (.buggedTempo, selection.buggedTempo),
   (.tempoChanges, selection.tempoChanges),
   (.holds, selection.holds),
   (.upper, selection.upper),
   (.ura, selection.ura),
   (.omnimix, selection.omnimix),
   (.lively, selection.lively)]

/-! ## Conditions -/

/-- The conditions of the level bounds: none where a bound leaves out no level,
and one that matches nothing if the bounds leave out all. -/
def levelConditions (selection : Selection) : List Condition :=
  if selection.levelMax < lowestLevel ∨ highestLevel < selection.levelMin ∨
      selection.levelMax < selection.levelMin then [.never]
  else
    (if lowestLevel < selection.levelMin then [.level .ge selection.levelMin] else []) ++
    (if selection.levelMax < highestLevel then [.level .le selection.levelMax] else [])

/-- The condition of a rating bound; a bound that is not finite imposes nothing. -/
def ratingCondition (comparison : Comparison) (bound : Option Binary64) : List Condition :=
  match bound with
  | some value => if value.isFinite then [.rating comparison value] else []
  | none => []

/-- The condition of a sran level bound. -/
def sranLevelCondition (comparison : Comparison) (bound : Option SranLevel) : List Condition :=
  match bound with
  | some value => [.sranLevel comparison value]
  | none => []

/-- The condition of the difficulty switches: none if all are on, and one that
matches nothing if all are off. -/
def difficultyConditions (selection : Selection) : List Condition :=
  if selection.difficulties = [] then [.never]
  else if selection.difficulties.length < Difficulty.all.length then
    [.difficulty .eq selection.difficulties]
  else []

/-- The condition of an inclusion. A fact that does not matter needs none,
unless it is left out by default. -/
def inclusionCondition (flag : Flag) (inclusion : Inclusion) : List Condition :=
  if inclusion = .any ∧ flag ∉ Flag.excludedByDefault then []
  else [.flag ⟨flag, inclusion.polarity⟩]

/-- The query that selects the same charts. -/
def toQuery (selection : Selection) : Query :=
  ⟨selection.levelConditions ++
    ratingCondition .ge selection.ratingMin ++
    ratingCondition .le selection.ratingMax ++
    sranLevelCondition .ge selection.sranLevelMin ++
    sranLevelCondition .le selection.sranLevelMax ++
    selection.difficultyConditions ++
    selection.inclusions.flatMap fun (flag, inclusion) => inclusionCondition flag inclusion⟩

/-- The filter that selects the same charts. -/
def filterText (selection : Selection) : String := selection.toQuery.text

end Selection

end ChartCatalog
