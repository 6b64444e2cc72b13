import ChartCatalog.Flag
import ChartCatalog.Hardest
import ChartCatalog.Rating

/-!
# Conditions

A condition is one clause of a filter. This module says what conditions there
are, when a chart satisfies one (`Condition.accepts`), and how a condition is
written (`Condition.text`). `Condition.WellFormed` describes the conditions that
clauses and structured selections give rise to.
-/

namespace ChartCatalog

open Number Text

/-- One clause of a filter. -/
inductive Condition
  /-- A field without a value: matches no chart. -/
  | never
  | level (comparison : Comparison) (value : UInt8)
  /-- A level and a part of it, compared as a pair. -/
  | halfLevel (comparison : HalfComparison) (value : UInt8) (half : HalfLevel)
  | rating (comparison : Comparison) (value : Binary64)
  | sranLevel (comparison : Comparison) (value : SranLevel)
  /-- Any of the listed difficulties. -/
  | difficulty (comparison : Equality) (values : List Difficulty)
  | flag (clause : FlagClause)
  | folder (comparison : Equality) (value : Folder)
  deriving DecidableEq

/-! ## Meaning -/

/-- Does the fact of a flag hold for the chart? -/
def Flag.holdsFor (flag : Flag) (chart : Chart) (hardest : HardestOf) : Bool :=
  match flag with
  | .buggedTempo => Tempo.hasBugged chart.tempo
  | .tempoChanges => Tempo.hasChanges chart.tempo
  | .hardest => chart.isHardest hardest
  | .holds => chart.hasHolds
  | flag => flag.label?.any chart.hasLabel

/-- Ratings are equal when their texts are; the order of ratings is that of the
numbers. -/
def Rating.satisfies (comparison : Comparison) (rating value : Binary64) : Bool :=
  match comparison with
  | .eq => text rating == text value
  | .ne => text rating != text value
  | comparison => comparison.holds (rating.compare? value)

/-- The order of two levels with their parts: the level decides first. -/
def compareHalves (level : UInt8) (half : HalfLevel) (level' : UInt8) (half' : HalfLevel) :
    Ordering :=
  (compare level.toNat level'.toNat).then (compare half.rank half'.rank)

namespace Condition

/-- Does the chart satisfy the condition? A chart without the field that is
compared satisfies no comparison of it. -/
def accepts (condition : Condition) (chart : Chart) (hardest : HardestOf) : Bool :=
  match condition with
  | never => false
  | level comparison value => comparison.holds (compare chart.level.toNat value.toNat)
  | halfLevel comparison value half =>
    chart.rating.any fun r =>
      comparison.holds (compareHalves chart.level (.ofRating r) value half)
  | rating comparison value => chart.rating.any (Rating.satisfies comparison · value)
  | sranLevel comparison value =>
    chart.sranLevel.any fun s => comparison.holds (compare s.rank.val value.rank.val)
  | difficulty comparison values => comparison.keeps (values.contains chart.difficulty)
  | flag clause => clause.holds (clause.flag.holdsFor chart hardest)
  | folder comparison value => comparison.keeps (chart.inFolder value)

/-- The kind of a condition, in one word. -/
def kind : Condition → String
  | never => "false"
  | level .. => "level"
  | halfLevel .. => "levelemh"
  | rating .. => "rating"
  | sranLevel .. => "sranlevel"
  | difficulty .. => "difficulty"
  | flag _ => "flag"
  | folder .. => "folder"

/-! ## Text -/

/-- The condition as a clause. -/
def text : Condition → String
  | never => "diff="
  | level comparison value => "lv" ++ comparison.sign ++ levelText value
  | halfLevel comparison value half =>
    "lv" ++ comparison.sign ++ levelText value ++ String.singleton half.letter
  | rating comparison value => "rat" ++ comparison.sign ++ String.ofList value.positionalText
  | sranLevel comparison value => "srlv" ++ comparison.sign ++ value.code
  | difficulty comparison values =>
    "diff" ++ comparison.sign ++ String.ofList (values.map Difficulty.letter)
  | flag clause => clause.text
  | folder comparison value => "ver" ++ comparison.sign ++ value.text

/-! ## Well-formed conditions -/

/-- A value that a comparison makes sense with: levels in range, finite
ratings, difficulties listed once each and at least one, and folders that
exist. -/
def WellFormed : Condition → Prop
  | never => True
  | level _ value => lowestLevel ≤ value ∧ value ≤ highestLevel
  | halfLevel _ value _ => lowestLevel ≤ value ∧ value ≤ highestLevel
  | rating _ value => value.isFinite = true
  | sranLevel .. => True
  | difficulty _ values => values ≠ [] ∧ values.Nodup
  | flag _ => True
  | folder _ value => value.Exists

end Condition

end ChartCatalog
