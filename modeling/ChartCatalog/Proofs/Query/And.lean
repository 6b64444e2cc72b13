import Mathlib.Tactic.Tauto
import ChartCatalog.Catalog
import ChartCatalog.Proofs.Query.Effective

/-!
# One more condition

A query with one more condition at its end (`Query.and`). Unless the condition is the first
to opt into a flag that is left out by default, the exclusions stay what they were, and the
answer is what the condition accepts of the answer before (`search_and`). A condition that
opts into such a flag lifts this one exclusion and no other (`accepts_and_flag`).
-/

namespace ChartCatalog

variable {query : Query} {c : Condition} {chart : Chart} {hardest : HardestOf} {flag : Flag}

/-- The condition names the flag, bare or after a `+`. -/
def Condition.OptsInto (c : Condition) (flag : Flag) : Prop :=
  ∃ polarity, polarity ≠ .forbid ∧ c = .flag ⟨flag, polarity⟩

theorem Condition.optsInto_flag_iff {flag' : Flag} {polarity : Polarity} :
    (Condition.flag ⟨flag', polarity⟩).OptsInto flag ↔ flag' = flag ∧ polarity ≠ .forbid := by
  constructor
  · rintro ⟨polarity', hpolarity, heq⟩
    cases heq
    exact ⟨rfl, hpolarity⟩
  · rintro ⟨rfl, hpolarity⟩
    exact ⟨polarity, hpolarity, rfl⟩

namespace Query

/-- The query with one more condition. -/
def and (query : Query) (c : Condition) : Query := ⟨query.conditions ++ [c]⟩

theorem mem_and {d : Condition} : d ∈ (query.and c).conditions ↔ d ∈ query.conditions ∨ d = c := by
  simp [and]

theorem optsInto_and : (query.and c).optsInto flag = true ↔
    query.optsInto flag = true ∨ c.OptsInto flag := by
  rw [optsInto_iff, optsInto_iff]
  simp only [mem_and, Condition.OptsInto]
  constructor
  · rintro ⟨polarity, hpolarity, hmem | hlast⟩
    · exact .inl ⟨polarity, hpolarity, hmem⟩
    · exact .inr ⟨polarity, hpolarity, hlast.symm⟩
  · rintro (⟨polarity, hpolarity, hmem⟩ | ⟨polarity, hpolarity, hlast⟩)
    · exact ⟨polarity, hpolarity, .inl hmem⟩
    · exact ⟨polarity, hpolarity, .inr hlast.symm⟩

/-- The charts that a query with one more condition selects. -/
theorem accepts_and_iff : (query.and c).effective.accepts chart hardest = true ↔
    (∀ c ∈ query.conditions, c.accepts chart hardest = true) ∧ c.accepts chart hardest = true ∧
      ∀ flag ∈ Flag.excludedByDefault, flag.holdsFor chart hardest = false ∨
        query.optsInto flag = true ∨ c.OptsInto flag := by
  have hne : (query.and c).conditions ≠ [] := by simp [and]
  rw [accepts_effective_iff, and_iff_right hne]
  simp only [optsInto_and, mem_and, or_imp, forall_and, forall_eq, and_assoc]

/-- A condition that opts into no other flags than the query does not change the
exclusions. -/
theorem accepts_and (hne : query.conditions ≠ [])
    (hc : ∀ flag ∈ Flag.excludedByDefault, c.OptsInto flag → query.optsInto flag = true)
    (chart : Chart) (hardest : HardestOf) : (query.and c).effective.accepts chart hardest =
      (query.effective.accepts chart hardest && c.accepts chart hardest) := by
  have hopts : (∀ flag ∈ Flag.excludedByDefault, flag.holdsFor chart hardest = false ∨
        query.optsInto flag = true ∨ c.OptsInto flag) ↔
      ∀ flag ∈ Flag.excludedByDefault, flag.holdsFor chart hardest = false ∨
        query.optsInto flag = true :=
    forall₂_congr fun flag hflag => by rw [or_iff_left_of_imp (hc flag hflag)]
  rw [Bool.eq_iff_iff, Bool.and_eq_true, accepts_and_iff, accepts_effective_iff, hopts]
  tauto

/-- A condition that opts into a flag lifts the exclusion of this flag. -/
theorem accepts_and_flag {polarity : Polarity} (hpolarity : polarity ≠ .forbid) :
    (query.and (.flag ⟨flag, polarity⟩)).effective.accepts chart hardest = true ↔
      (∀ c ∈ query.conditions, c.accepts chart hardest = true) ∧
        (Condition.flag ⟨flag, polarity⟩).accepts chart hardest = true ∧
        ∀ other ∈ Flag.excludedByDefault, other ≠ flag →
          other.holdsFor chart hardest = false ∨ query.optsInto other = true := by
  rw [accepts_and_iff]
  refine and_congr_right fun _ => and_congr_right fun _ => forall₂_congr fun other _ => ?_
  rw [Condition.optsInto_flag_iff]
  constructor
  · rintro (hfalse | hopts | ⟨rfl, -⟩) hne
    · exact .inl hfalse
    · exact .inr hopts
    · exact absurd rfl hne
  · intro h
    by_cases heq : other = flag
    · exact .inr (.inr ⟨heq.symm, hpolarity⟩)
    · exact (h heq).imp_right .inl

end Query

namespace Catalog

theorem search_and (catalog : Catalog) (hne : query.conditions ≠ [])
    (hc : ∀ flag ∈ Flag.excludedByDefault, c.OptsInto flag → query.optsInto flag = true) :
    catalog.search (query.and c) =
      (catalog.search query).filter (c.accepts · catalog.hardest) := by
  unfold search
  rw [List.filter_filter]
  refine List.filter_congr fun chart _ => ?_
  rw [Query.accepts_and hne hc, Bool.and_comm]

/-- The clause that requires a flag and the one that forbids it select from what the
clause that allows the flag selects. -/
theorem search_and_flag (catalog : Catalog) (query : Query) (flag : Flag)
    (polarity : Polarity) :
    catalog.search (query.and (.flag ⟨flag, polarity⟩)) =
      (catalog.search (query.and (.flag ⟨flag, .allow⟩))).filter
        ((Condition.flag ⟨flag, polarity⟩).accepts · catalog.hardest) := by
  unfold search
  rw [List.filter_filter]
  refine List.filter_congr fun chart _ => ?_
  rw [Bool.eq_iff_iff, Bool.and_eq_true,
    Query.accepts_and_flag (show Polarity.allow ≠ .forbid by decide)]
  have hallow : (Condition.flag ⟨flag, .allow⟩).accepts chart catalog.hardest = true := rfl
  by_cases hforbid : polarity = .forbid
  · -- nothing is lifted, but the clause rules out what the exclusion rules out
    subst hforbid
    rw [Query.accepts_and_iff, Query.accepts_forbid_iff]
    constructor
    · rintro ⟨hall, hfalse, hothers⟩
      refine ⟨hfalse, hall, hallow, fun other hother _ => ?_⟩
      refine (hothers other hother).imp_right fun hopts => hopts.resolve_right ?_
      rw [Condition.optsInto_flag_iff]
      exact fun h => h.2 rfl
    · rintro ⟨hfalse, hall, -, hothers⟩
      refine ⟨hall, hfalse, fun other hother => ?_⟩
      by_cases heq : other = flag
      · exact .inl (heq ▸ hfalse)
      · exact (hothers other hother heq).imp_right .inl
  · rw [Query.accepts_and_flag hforbid]
    tauto

end Catalog

end ChartCatalog
