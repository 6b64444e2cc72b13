import ChartCatalog.Chart.Record
import ChartCatalog.Selection.Basic

/-!
# Selections as records

The JSON form of a selection. Every field has a default, so a record states only
what differs from the selection of all charts.
-/

namespace ChartCatalog

open Json

namespace Inclusion

/-- The name as a JSON value. -/
def toJson (inclusion : Inclusion) : Json := .ofString inclusion.name

/-- The inclusion of a name. -/
def ofJson? (value : Json) : Option Inclusion := value.name?.bind ofName?

end Inclusion

namespace Selection

/-- The names of the fields, in order. -/
def fieldNames : List String :=
  ["level_min", "level_max", "rating_min", "rating_max", "sran_level_min", "sran_level_max",
    "include_easy", "include_normal", "include_hyper", "include_ex", "hardest", "floor_infection",
    "bugged_bpm", "bpm_changes", "holds", "upper", "ura", "omnimix", "lively"]

/-- The record of a selection. -/
def toJson (selection : Selection) : Json :=
  .ofRecord [
    ("level_min", .ofNat selection.levelMin.toNat),
    ("level_max", .ofNat selection.levelMax.toNat),
    ("rating_min", .ofOption .ofBinary64 selection.ratingMin),
    ("rating_max", .ofOption .ofBinary64 selection.ratingMax),
    ("sran_level_min", .ofOption SranLevel.toJson selection.sranLevelMin),
    ("sran_level_max", .ofOption SranLevel.toJson selection.sranLevelMax),
    ("include_easy", .bool selection.includeEasy),
    ("include_normal", .bool selection.includeNormal),
    ("include_hyper", .bool selection.includeHyper),
    ("include_ex", .bool selection.includeExtra),
    ("hardest", selection.hardest.toJson),
    ("floor_infection", selection.floorInfection.toJson),
    ("bugged_bpm", selection.buggedTempo.toJson),
    ("bpm_changes", selection.tempoChanges.toJson),
    ("holds", selection.holds.toJson),
    ("upper", selection.upper.toJson),
    ("ura", selection.ura.toJson),
    ("omnimix", selection.omnimix.toJson),
    ("lively", selection.lively.toJson)]

/-- The selection of a record. -/
def ofJson? (value : Json) : Option Selection := do
  let record ← Record.ofJson? fieldNames value
  let all : Selection := {}
  let levelMin ← record.defaulted "level_min" all.levelMin uint8?
  let levelMax ← record.defaulted "level_max" all.levelMax uint8?
  let ratingMin ← record.defaulted "rating_min" all.ratingMin (nullable? binary64?)
  let ratingMax ← record.defaulted "rating_max" all.ratingMax (nullable? binary64?)
  let sranLevelMin ← record.defaulted "sran_level_min" all.sranLevelMin
    (nullable? SranLevel.ofJson?)
  let sranLevelMax ← record.defaulted "sran_level_max" all.sranLevelMax
    (nullable? SranLevel.ofJson?)
  let includeEasy ← record.defaulted "include_easy" all.includeEasy bool?
  let includeNormal ← record.defaulted "include_normal" all.includeNormal bool?
  let includeHyper ← record.defaulted "include_hyper" all.includeHyper bool?
  let includeExtra ← record.defaulted "include_ex" all.includeExtra bool?
  let hardest ← record.defaulted "hardest" all.hardest Inclusion.ofJson?
  let floorInfection ← record.defaulted "floor_infection" all.floorInfection Inclusion.ofJson?
  let buggedTempo ← record.defaulted "bugged_bpm" all.buggedTempo Inclusion.ofJson?
  let tempoChanges ← record.defaulted "bpm_changes" all.tempoChanges Inclusion.ofJson?
  let holds ← record.defaulted "holds" all.holds Inclusion.ofJson?
  let upper ← record.defaulted "upper" all.upper Inclusion.ofJson?
  let ura ← record.defaulted "ura" all.ura Inclusion.ofJson?
  let omnimix ← record.defaulted "omnimix" all.omnimix Inclusion.ofJson?
  let lively ← record.defaulted "lively" all.lively Inclusion.ofJson?
  some {
    levelMin := levelMin
    levelMax := levelMax
    ratingMin := ratingMin
    ratingMax := ratingMax
    sranLevelMin := sranLevelMin
    sranLevelMax := sranLevelMax
    includeEasy := includeEasy
    includeNormal := includeNormal
    includeHyper := includeHyper
    includeExtra := includeExtra
    hardest := hardest
    floorInfection := floorInfection
    buggedTempo := buggedTempo
    tempoChanges := tempoChanges
    holds := holds
    upper := upper
    ura := ura
    omnimix := omnimix
    lively := lively }

end Selection

end ChartCatalog
