import ChartCatalog.Proofs.Catalog.Hardest
import ChartCatalog.Proofs.Query.Effective
import ChartCatalog.Proofs.Selection.Conditions
import Mathlib.Tactic.MkIffOfInductiveProp

/-!
# The meaning of a selection

What a selection admits, said of the chart and the bounds and switches alone
(`Selection.Admits`): no condition, no query and no exclusion comes in. The
conditions of a selection leave out bounds that bound nothing and say `never` for
bounds that nothing meets, and the query made of them is given exclusions of its
own; for the charts of a catalog all this comes to what the selection admits
(`select_eq_filter`).
-/

namespace ChartCatalog

open Number

/-! ## Orders -/

namespace Comparison

variable {α : Type} [Ord α] [LE α] [Std.LawfulOrderOrd α] {a b : α}

theorem ge_holds_compare : ge.holds (some (compare a b)) = true ↔ b ≤ a := by
  rw [← Std.isGE_compare]
  cases compare a b <;> decide

theorem le_holds_compare : le.holds (some (compare a b)) = true ↔ a ≤ b := by
  rw [← Std.isLE_compare]
  cases compare a b <;> decide

end Comparison

/-- The order of numbers, in which `nan` takes no part. -/
instance : LE Binary64 := ⟨fun x y => ∃ a ∈ x.place?, ∃ b ∈ y.place?, a ≤ b⟩

instance (x y : Binary64) : Decidable (x ≤ y) :=
  inferInstanceAs (Decidable (∃ a ∈ x.place?, ∃ b ∈ y.place?, a ≤ b))

theorem Comparison.holds_compare?_iff {comparison : Comparison}
    (hnone : comparison.holds none = false) {x y : Binary64} :
    comparison.holds (x.compare? y) = true ↔
      ∃ a ∈ x.place?, ∃ b ∈ y.place?, comparison.holds (some (compare a b)) = true := by
  unfold Binary64.compare?
  cases x.place? with
  | none => simp [hnone]
  | some a =>
    cases y.place? with
    | none => simp [hnone]
    | some b => simp

namespace Rating

variable {rating value : Binary64}

theorem satisfies_ge_iff : satisfies .ge rating value = true ↔ value ≤ rating := by
  rw [show satisfies .ge rating value = Comparison.ge.holds (rating.compare? value) from rfl,
    Comparison.holds_compare?_iff rfl]
  simp only [Comparison.ge_holds_compare]
  constructor
  · rintro ⟨a, ha, b, hb, hle⟩
    exact ⟨b, hb, a, ha, hle⟩
  · rintro ⟨b, hb, a, ha, hle⟩
    exact ⟨a, ha, b, hb, hle⟩

theorem satisfies_le_iff : satisfies .le rating value = true ↔ rating ≤ value := by
  rw [show satisfies .le rating value = Comparison.le.holds (rating.compare? value) from rfl,
    Comparison.holds_compare?_iff rfl]
  simp only [Comparison.le_holds_compare]
  exact Iff.rfl

end Rating

namespace SranLevel

/-- The order of the scale. -/
instance : LE SranLevel := ⟨fun a b => a.rank ≤ b.rank⟩

instance (a b : SranLevel) : Decidable (a ≤ b) := inferInstanceAs (Decidable (a.rank ≤ b.rank))

end SranLevel

/-! ## What a selection admits -/

/-- Does the inclusion admit a chart, given whether the fact holds of it? -/
def Inclusion.Admits (inclusion : Inclusion) (fact : Prop) : Prop :=
  (inclusion = .without → ¬ fact) ∧ (inclusion = .only → fact)

instance (inclusion : Inclusion) (fact : Prop) [Decidable fact] :
    Decidable (inclusion.Admits fact) :=
  inferInstanceAs (Decidable ((inclusion = .without → ¬ fact) ∧ (inclusion = .only → fact)))

namespace Selection

/-- The selection admits a chart of the catalog with the given charts. A rating bound
that is not finite imposes nothing. -/
@[mk_iff]
structure Admits (selection : Selection) (charts : List Chart) (chart : Chart) : Prop where
  levelMin_le : selection.levelMin ≤ chart.level
  le_levelMax : chart.level ≤ selection.levelMax
  ratingMin_le : ∀ bound ∈ selection.ratingMin, bound.isFinite = true →
    ∃ rating ∈ chart.rating, bound ≤ rating
  le_ratingMax : ∀ bound ∈ selection.ratingMax, bound.isFinite = true →
    ∃ rating ∈ chart.rating, rating ≤ bound
  sranLevelMin_le : ∀ bound ∈ selection.sranLevelMin, ∃ level ∈ chart.sranLevel, bound ≤ level
  le_sranLevelMax : ∀ bound ∈ selection.sranLevelMax, ∃ level ∈ chart.sranLevel, level ≤ bound
  includeEasy : chart.difficulty = .easy → selection.includeEasy = true
  includeNormal : chart.difficulty = .normal → selection.includeNormal = true
  includeHyper : chart.difficulty = .hyper → selection.includeHyper = true
  includeExtra : chart.difficulty = .extra → selection.includeExtra = true
  hardest : selection.hardest.Admits
    (∀ other ∈ charts, other.songId = chart.songId → other.difficulty ≤ chart.difficulty)
  floorInfection : selection.floorInfection.Admits (chart.hasLabel "floor_infection" = true)
  buggedTempo : selection.buggedTempo.Admits (Tempo.hasBugged chart.tempo = true)
  tempoChanges : selection.tempoChanges.Admits (Tempo.hasChanges chart.tempo = true)
  holds : selection.holds.Admits (chart.hasHolds = true)
  upper : selection.upper.Admits (chart.hasLabel "upper" = true)
  ura : selection.ura.Admits (chart.hasLabel "ura" = true)
  omnimix : selection.omnimix.Admits (chart.hasLabel "omnimix" = true)
  lively : selection.lively.Admits (chart.hasLabel "lively" = true)

instance (selection : Selection) (charts : List Chart) (chart : Chart) :
    Decidable (selection.Admits charts chart) :=
  decidable_of_iff _ (admits_iff selection charts chart).symm

/-! ## What its conditions accept -/

variable {selection : Selection} {chart : Chart} {hardest : HardestOf}

/-- A condition may be left out where it would hold anyway. -/
theorem forall_mem_optional_iff {needed fact : Prop} [Decidable needed] {c : Condition}
    (hc : c.accepts chart hardest = true ↔ fact) (hfact : ¬ needed → fact) :
    (∀ c' ∈ if needed then [c] else [], c'.accepts chart hardest = true) ↔ fact := by
  split
  · rw [List.forall_mem_singleton, hc]
  · rename_i hneeded
    simp only [List.not_mem_nil, false_implies, implies_true, hfact hneeded]

theorem accepts_level_ge_iff {value : UInt8} :
    (Condition.level .ge value).accepts chart hardest = true ↔
      value.toNat ≤ chart.level.toNat :=
  Comparison.ge_holds_compare

theorem accepts_level_le_iff {value : UInt8} :
    (Condition.level .le value).accepts chart hardest = true ↔
      chart.level.toNat ≤ value.toNat :=
  Comparison.le_holds_compare

/-- Of a chart with a level in range, the conditions of the level bounds say what the
bounds say. -/
theorem forall_levelConditions_iff (hlow : lowestLevel ≤ chart.level)
    (hhigh : chart.level ≤ highestLevel) :
    (∀ c ∈ selection.levelConditions, c.accepts chart hardest = true) ↔
      selection.levelMin ≤ chart.level ∧ chart.level ≤ selection.levelMax := by
  unfold levelConditions
  simp only [UInt8.le_iff_toNat_le, UInt8.lt_iff_toNat_lt] at hlow hhigh ⊢
  split
  · -- no level is within the bounds
    simp only [List.mem_singleton, forall_eq, Condition.accepts, Bool.false_eq_true, false_iff]
    omega
  · rw [List.forall_mem_append, forall_mem_optional_iff accepts_level_ge_iff (by omega),
      forall_mem_optional_iff accepts_level_le_iff (by omega)]

theorem forall_ratingCondition_iff {comparison : Comparison} {bound : Option Binary64} :
    (∀ c ∈ ratingCondition comparison bound, c.accepts chart hardest = true) ↔
      ∀ value ∈ bound, value.isFinite = true →
        ∃ rating ∈ chart.rating, Rating.satisfies comparison rating value = true := by
  constructor
  · intro h value hvalue hfinite
    have hc := h _ (mem_ratingCondition_iff.mpr ⟨value, hvalue, hfinite, rfl⟩)
    exact (Option.any_eq_true _ _).mp hc
  · intro h c hc
    obtain ⟨value, hvalue, hfinite, rfl⟩ := mem_ratingCondition_iff.mp hc
    exact (Option.any_eq_true _ _).mpr (h value hvalue hfinite)

theorem forall_sranLevelCondition_iff {comparison : Comparison} {bound : Option SranLevel} :
    (∀ c ∈ sranLevelCondition comparison bound, c.accepts chart hardest = true) ↔
      ∀ value ∈ bound, ∃ level ∈ chart.sranLevel,
        comparison.holds (some (compare level.rank.val value.rank.val)) = true := by
  cases bound with
  | none => simp [sranLevelCondition]
  | some value => simp [sranLevelCondition, Condition.accepts, Option.any_eq_true]

/-- A difficulty is switched on if the switch of its name is. -/
theorem includes_iff {d : Difficulty} : selection.includes d = true ↔
    (d = .easy → selection.includeEasy = true) ∧
    (d = .normal → selection.includeNormal = true) ∧
    (d = .hyper → selection.includeHyper = true) ∧
    (d = .extra → selection.includeExtra = true) := by
  cases d <;> simp [includes]

theorem mem_difficulties_iff {d : Difficulty} :
    d ∈ selection.difficulties ↔ selection.includes d = true := by
  have hall : d ∈ Difficulty.all := by cases d <;> decide
  rw [difficulties, List.mem_filter, and_iff_right hall]

/-- All difficulties are listed if as many are listed as there are. -/
theorem includes_of_length_le (h : Difficulty.all.length ≤ selection.difficulties.length)
    (d : Difficulty) : selection.includes d = true := by
  have hall : selection.difficulties = Difficulty.all :=
    List.filter_sublist.eq_of_length_le h
  rw [← mem_difficulties_iff, hall]
  cases d <;> decide

theorem forall_difficultyConditions_iff :
    (∀ c ∈ selection.difficultyConditions, c.accepts chart hardest = true) ↔
      selection.includes chart.difficulty = true := by
  unfold difficultyConditions
  split
  · -- no difficulty is switched on
    rename_i hnone
    rw [← mem_difficulties_iff, hnone]
    simp [Condition.accepts]
  · split
    · rw [List.forall_mem_singleton, ← mem_difficulties_iff]
      exact List.contains_iff_mem
    · rename_i hlength
      have hincludes := includes_of_length_le (Nat.not_lt.mp hlength) chart.difficulty
      simp [hincludes]

theorem forall_inclusionCondition_iff {flag : Flag} {inclusion : Inclusion} :
    (∀ c ∈ inclusionCondition flag inclusion, c.accepts chart hardest = true) ↔
      inclusion.Admits (flag.holdsFor chart hardest = true) := by
  unfold inclusionCondition Inclusion.Admits
  split
  · rename_i hany
    simp [hany.1]
  · rw [List.forall_mem_singleton]
    cases inclusion <;> simp [Condition.accepts, FlagClause.holds, Inclusion.polarity]

/-- The exclusions of the query add nothing: a fact that is left out by default is
forbidden by a condition of its own, or opted into by it. -/
theorem holdsFor_eq_false_or_optsInto {flag : Flag} {inclusion : Inclusion}
    (hmem : (flag, inclusion) ∈ selection.inclusions) (hflag : flag ∈ Flag.excludedByDefault)
    (h : ∀ c ∈ selection.toQuery.conditions, c.accepts chart hardest = true) :
    flag.holdsFor chart hardest = false ∨ selection.toQuery.optsInto flag = true := by
  have hc : Condition.flag ⟨flag, inclusion.polarity⟩ ∈ selection.toQuery.conditions :=
    List.mem_append_right _
      (List.mem_flatMap.mpr ⟨(flag, inclusion), hmem, mem_inclusionCondition hflag _⟩)
  by_cases hforbid : inclusion.polarity = .forbid
  · left
    rw [hforbid] at hc
    exact Query.accepts_forbid_iff.mp (h _ hc)
  · right
    exact Query.optsInto_iff.mpr ⟨_, hforbid, hc⟩

/-- The query of a selection is never empty and needs no exclusions, so it accepts
what its conditions accept. -/
theorem accepts_effective_toQuery_iff :
    selection.toQuery.effective.accepts chart hardest = true ↔
      ∀ c ∈ selection.toQuery.conditions, c.accepts chart hardest = true := by
  rw [Query.accepts_effective_iff, and_iff_right selection.conditions_ne_nil]
  refine and_iff_left_of_imp fun h flag hflag => ?_
  have hmem : ∃ inclusion, (flag, inclusion) ∈ selection.inclusions := by
    simp only [Flag.excludedByDefault, List.mem_cons, List.not_mem_nil, or_false] at hflag
    rcases hflag with rfl | rfl
    · exact ⟨selection.omnimix, by simp [inclusions]⟩
    · exact ⟨selection.lively, by simp [inclusions]⟩
  obtain ⟨inclusion, hmem⟩ := hmem
  exact holdsFor_eq_false_or_optsInto hmem hflag h

/-- All conditions of a selection together accept the charts that it admits. -/
theorem forall_conditions_iff {charts : List Chart} (hchart : chart ∈ charts)
    (hlow : lowestLevel ≤ chart.level) (hhigh : chart.level ≤ highestLevel) :
    (∀ c ∈ selection.toQuery.conditions, c.accepts chart (hardestAmong charts) = true) ↔
      selection.Admits charts chart := by
  have hhardest : Flag.hardest.holdsFor chart (hardestAmong charts) = true ↔
      ∀ other ∈ charts, other.songId = chart.songId → other.difficulty ≤ chart.difficulty :=
    Chart.isHardest_iff hchart
  simp only [toQuery, List.forall_mem_append, List.forall_mem_flatMap,
    forall_levelConditions_iff hlow hhigh, forall_ratingCondition_iff,
    forall_sranLevelCondition_iff, forall_difficultyConditions_iff, includes_iff,
    forall_inclusionCondition_iff, Rating.satisfies_ge_iff, Rating.satisfies_le_iff,
    Comparison.ge_holds_compare, Comparison.le_holds_compare]
  simp only [inclusions, List.forall_mem_cons, hhardest, List.not_mem_nil, false_implies,
    implies_true, and_true]
  rw [admits_iff]
  simp only [and_assoc]
  exact Iff.rfl

end Selection

/-- A selection lists, in the order of the catalog, exactly the charts that it
admits. -/
theorem Catalog.select_eq_filter (catalog : Catalog) (selection : Selection) :
    catalog.select selection =
      catalog.charts.filter (selection.Admits catalog.charts ·) := by
  unfold select search
  refine List.filter_congr fun chart hchart => ?_
  obtain ⟨-, hlow, hhigh, -⟩ := Chart.fault?_eq_none_iff.mp (catalog.faultless chart hchart)
  rw [Bool.eq_iff_iff, decide_eq_true_iff, Selection.accepts_effective_toQuery_iff,
    catalog.hardest_eq]
  exact Selection.forall_conditions_iff hchart hlow hhigh

/-- Bounds beyond all levels bound nothing, and a label left out by default is let in
by `any`. -/
example : ({ levelMin := 0, levelMax := 255, omnimix := .any } : Selection).Admits []
    ((Chart.draft "1n" "1" .normal 40).apply (.label "omnimix")) := by
  decide

end ChartCatalog
