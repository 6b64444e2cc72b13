/-!
# Flags

A flag is a yes-or-no fact about a chart that a clause names. Four flags are
read off the chart and its song; the others are labels of the song under
another name (`Flag.label?`). A flag clause requires its fact, forbids it, or
merely allows it, which matters for the facts that are left out by default.
-/

namespace ChartCatalog

/-- A yes-or-no fact about a chart. -/
inductive Flag
  | buggedTempo
  | tempoChanges
  | hardest
  | holds
  | floorInfection
  | upper
  | ura
  | eemall
  | omnimix
  | lively
  deriving DecidableEq

namespace Flag

/-- All flags. -/
def all : List Flag :=
  [buggedTempo, tempoChanges, hardest, holds, floorInfection, upper, ura, eemall, omnimix, lively]

/-- The name in clauses and records. -/
def name : Flag → String
  | buggedTempo => "buggedbpm"
  | tempoChanges => "bpmchanges"
  | hardest => "hardest"
  | holds => "holds"
  | floorInfection => "floorinfection"
  | upper => "upper"
  | ura => "ura"
  | eemall => "eemall"
  | omnimix => "omnimix"
  | lively => "lively"

/-- The song label behind a flag, for the flags that are labels. -/
def label? : Flag → Option String
  | floorInfection => some "floor_infection"
  | upper => some "upper"
  | ura => some "ura"
  | eemall => some "eemall"
  | omnimix => some "omnimix"
  | lively => some "lively"
  | buggedTempo | tempoChanges | hardest | holds => none

/-- The flag with exactly this name. -/
def ofRecordName? (name : String) : Option Flag := all.find? (·.name = name)

/-- The flag that a clause names; tempo changes have a second name there. -/
def ofName? (name : String) : Option Flag :=
  if name = "soflan" then some tempoChanges else ofRecordName? name

/-- The flags whose charts are left out unless a query names them. -/
def excludedByDefault : List Flag := [omnimix, lively]

@[simp] theorem ofName?_name (flag : Flag) : ofName? flag.name = some flag := by
  cases flag <;> decide

end Flag

/-- What a flag clause does with its fact. -/
inductive Polarity
  | require
  | forbid
  | allow
  deriving DecidableEq

/-- The mark before the flag's name. -/
def Polarity.mark : Polarity → String
  | require => ""
  | forbid => "-"
  | allow => "+"

/-- A clause about a flag. -/
structure FlagClause where
  flag : Flag
  polarity : Polarity
  deriving DecidableEq

namespace FlagClause

/-- The clause as text. -/
def text (clause : FlagClause) : String := clause.polarity.mark ++ clause.flag.name

/-- A mark at the start of the characters and the name after it; `!` forbids
like `-`. -/
def splitMark : List Char → Polarity × List Char
  | '+' :: name => (.allow, name)
  | '-' :: name => (.forbid, name)
  | '!' :: name => (.forbid, name)
  | name => (.require, name)

/-- The clause of a single token. -/
def ofToken? (token : String) : Option FlagClause :=
  let (polarity, name) := splitMark token.toList
  (Flag.ofName? (String.ofList name)).map (⟨·, polarity⟩)

/-- Does the clause name its flag without forbidding it? -/
def optsInto (clause : FlagClause) (flag : Flag) : Bool :=
  clause.flag == flag && clause.polarity != .forbid

/-- Whether the clause holds, given whether the fact does. -/
def holds (clause : FlagClause) (fact : Bool) : Bool :=
  match clause.polarity with
  | .require => fact
  | .forbid => !fact
  | .allow => true

/-- The clause that is written is read back. -/
theorem ofToken?_text (clause : FlagClause) : ofToken? clause.text = some clause := by
  obtain ⟨flag, polarity⟩ := clause
  cases flag <;> cases polarity <;> decide

end FlagClause

end ChartCatalog
