import ChartCatalog.Proofs.Query.Parse

/-!
# Queries with their exclusions

What the effective query of a query accepts: nothing if there are no conditions,
and else the charts that satisfy them all and of which no fact holds that is left
out by default, except for the facts into which the query opts
(`accepts_effective_iff`). A query opts into a flag by a clause of its own, which
is none that forbids it (`optsInto_iff`).
-/

namespace ChartCatalog.Query

variable {query : Query} {chart : Chart} {hardest : HardestOf} {flag : Flag}

theorem optsInto_iff : query.optsInto flag = true ↔
    ∃ polarity, polarity ≠ .forbid ∧ Condition.flag ⟨flag, polarity⟩ ∈ query.conditions := by
  unfold optsInto
  rw [List.any_eq_true]
  constructor
  · rintro ⟨c, hc, hopts⟩
    split at hopts
    · rename_i clause
      obtain ⟨flag', polarity⟩ := clause
      simp only [FlagClause.optsInto, Bool.and_eq_true, beq_iff_eq, bne_iff_ne] at hopts
      obtain ⟨rfl, hpolarity⟩ := hopts
      exact ⟨polarity, hpolarity, hc⟩
    · exact absurd hopts (by decide)
  · rintro ⟨polarity, hpolarity, hc⟩
    refine ⟨_, hc, ?_⟩
    simp [FlagClause.optsInto, hpolarity]

theorem accepts_forbid_iff :
    (Condition.flag ⟨flag, .forbid⟩).accepts chart hardest = true ↔
      flag.holdsFor chart hardest = false := by
  simp [Condition.accepts, FlagClause.holds]

theorem accepts_exclusions_iff : query.exclusions.all (·.accepts chart hardest) = true ↔
    ∀ flag ∈ Flag.excludedByDefault,
      flag.holdsFor chart hardest = false ∨ query.optsInto flag = true := by
  rw [List.all_eq_true]
  constructor
  · intro h flag hflag
    by_cases hopts : query.optsInto flag = true
    · exact .inr hopts
    · left
      rw [← accepts_forbid_iff]
      apply h
      exact List.mem_map.mpr ⟨flag, List.mem_filter.mpr ⟨hflag, by simpa using hopts⟩, rfl⟩
  · intro h c hc
    obtain ⟨flag, hflag, rfl⟩ := List.mem_map.mp hc
    obtain ⟨hexcluded, hopts⟩ := List.mem_filter.mp hflag
    rw [accepts_forbid_iff]
    rcases h flag hexcluded with h | h
    · exact h
    · rw [h] at hopts
      exact absurd hopts (by decide)

/-- What a query selects. -/
theorem accepts_effective_iff : query.effective.accepts chart hardest = true ↔
    query.conditions ≠ [] ∧ (∀ c ∈ query.conditions, c.accepts chart hardest = true) ∧
      ∀ flag ∈ Flag.excludedByDefault,
        flag.holdsFor chart hardest = false ∨ query.optsInto flag = true := by
  obtain ⟨conditions⟩ := query
  cases conditions with
  | nil => simp [effective, isEmpty, accepts, empty]
  | cons c conditions =>
    rw [← accepts_exclusions_iff, ← List.all_eq_true]
    simp only [effective, isEmpty, List.isEmpty_cons, accepts, Bool.false_eq_true, if_false,
      List.cons_append, Bool.not_false, Bool.true_and, ne_eq, reduceCtorEq, not_false_eq_true,
      true_and, ← Bool.and_eq_true, ← List.all_append]

end ChartCatalog.Query
