import ChartCatalog.Proofs.Condition.RoundTrip
import ChartCatalog.Proofs.Query.Parse

/-!
# Reading back a query

The text of a query of well-formed conditions is read back as the query itself,
unless one of the ratings in it is split; then the first of these is the clause
that the error shows. No text is ever read as another condition or another query
than the one that was written (`parse_text`).
-/

namespace ChartCatalog

open Text

namespace Query

variable {query : Query}

/-! ## The clauses of a text -/

theorem separator_not_mem_text {c : Condition} (h : c.WellFormed) :
    separator ∉ c.text.toList := by
  intro hmem
  have hchar := List.all_eq_true.mp (Condition.isText_text h) _ hmem
  exact absurd hchar (by decide)

theorem isBlankText_condition {c : Condition} (h : c.WellFormed) :
    isBlankText c.text.toList = false := by
  have hne : c.text.toList ≠ [] := by
    cases c with
    | flag clause =>
      obtain ⟨flag, polarity⟩ := clause
      cases flag <;> cases polarity <;> decide
    | never => decide
    | level => simp [Condition.text]
    | halfLevel => simp [Condition.text]
    | rating => simp [Condition.text]
    | sranLevel => simp [Condition.text]
    | difficulty => simp [Condition.text]
    | folder => simp [Condition.text]
  obtain ⟨d, hd⟩ := List.exists_mem_of_ne_nil _ hne
  rw [Bool.eq_false_iff]
  intro hblank
  have hd' := List.all_eq_true.mp hblank d hd
  rw [Condition.isBlank_of_mem_text h hd] at hd'
  exact absurd hd' (by decide)

theorem clauses_text (h : ∀ c ∈ query.conditions, c.WellFormed) :
    clauses query.text = query.conditions.map Condition.text := by
  have hparts : ∀ part ∈ query.conditions.map (·.text.toList),
      separator ∉ part ∧ isBlankText part = false := by
    intro part hpart
    obtain ⟨c, hc, rfl⟩ := List.mem_map.mp hpart
    exact ⟨separator_not_mem_text (h c hc), isBlankText_condition (h c hc)⟩
  rw [text, clauses_join (fun part hpart => (hparts part hpart).1)
    fun part hpart => (hparts part hpart).2, List.map_map]
  exact List.map_congr_left fun c _ => String.ofList_toList

/-- Only the query without conditions has a blank text. -/
theorem isBlankText_text_of_ne_nil (h : ∀ c ∈ query.conditions, c.WellFormed)
    (hne : query.conditions ≠ []) : isBlankText query.text.toList = false := by
  obtain ⟨conditions⟩ := query
  cases conditions with
  | nil => exact absurd rfl hne
  | cons c conditions =>
    have hc := isBlankText_condition (h c List.mem_cons_self)
    have hprefix : ∃ t, (text ⟨c :: conditions⟩).toList = c.text.toList ++ t := by
      rw [text, String.toList_ofList]
      cases conditions with
      | nil => exact ⟨[], (List.append_nil _).symm⟩
      | cons next conditions => exact ⟨_, List.append_assoc _ _ _⟩
    obtain ⟨t, ht⟩ := hprefix
    rw [ht, isBlankText, List.all_append]
    rw [isBlankText] at hc
    rw [hc, Bool.false_and]

/-! ## Queries without and with a split rating -/

theorem parse_text_of_not_isSplit (h : ∀ c ∈ query.conditions, c.WellFormed)
    (hsplit : ∀ c ∈ query.conditions, ¬ c.IsSplit) : parse query.text = .ok query := by
  rw [parse_eq_ok_iff, clauses_text h, List.map_map]
  refine List.map_congr_left fun c hc => ?_
  exact Condition.parse_text_of_not_isSplit (h c hc) (hsplit c hc)

theorem parse_text_of_isSplit (h : ∀ c ∈ query.conditions, c.WellFormed)
    (hsplit : ∃ c ∈ query.conditions, c.IsSplit) :
    ∃ c ∈ query.conditions, c.IsSplit ∧ parse query.text =
      .error (.invalidCondition c.text (Condition.clauseTokens c.text)) := by
  obtain ⟨c₀, hc₀, hsplit₀⟩ := hsplit
  -- the first condition that is split
  have hfound : (query.conditions.find? (decide ·.IsSplit)).isSome = true := by
    rw [List.find?_isSome]
    exact ⟨c₀, hc₀, decide_eq_true hsplit₀⟩
  obtain ⟨c, hc⟩ := Option.isSome_iff_exists.mp hfound
  obtain ⟨hsplit, before, after, hconditions, hbefore⟩ := List.find?_eq_some_iff_append.mp hc
  have hmem : ∀ {x}, x ∈ before ++ c :: after → x ∈ query.conditions := by
    intro x hx
    rw [hconditions]
    exact hx
  have hc : c ∈ query.conditions := hmem (by simp)
  refine ⟨c, hc, of_decide_eq_true hsplit, ?_⟩
  rw [parse_eq_error_iff, clauses_text h, hconditions]
  refine ⟨before.map Condition.text, c.text, after.map Condition.text, by simp, ?_, ?_⟩
  · intro t ht
    obtain ⟨x, hx, rfl⟩ := List.mem_map.mp ht
    have hnot : ¬ x.IsSplit := by simpa using hbefore x hx
    exact ⟨x, Condition.parse_text_of_not_isSplit (h x (hmem (List.mem_append_left _ hx))) hnot⟩
  · exact Condition.parse_text_of_isSplit (h c hc) (of_decide_eq_true hsplit)

end Query

/-- What is written and read again is the same, or is refused because a rating in
it is split. -/
theorem parse_text :
    (∀ c : Condition, c.WellFormed →
      (¬ c.IsSplit → Condition.parse c.text = .ok c) ∧
      (c.IsSplit → Condition.parse c.text =
        .error (.invalidCondition c.text (Condition.clauseTokens c.text)))) ∧
    ∀ query : Query, (∀ c ∈ query.conditions, c.WellFormed) →
      ((∀ c ∈ query.conditions, ¬ c.IsSplit) → Query.parse query.text = .ok query) ∧
      ((∃ c ∈ query.conditions, c.IsSplit) → ∃ c ∈ query.conditions, c.IsSplit ∧
        Query.parse query.text =
          .error (.invalidCondition c.text (Condition.clauseTokens c.text))) := by
  refine ⟨fun c h => ⟨?_, ?_⟩, fun query h => ⟨?_, ?_⟩⟩
  · exact Condition.parse_text_of_not_isSplit h
  · exact Condition.parse_text_of_isSplit h
  · exact Query.parse_text_of_not_isSplit h
  · exact Query.parse_text_of_isSplit h

/-- One of the ratings that are split. -/
def hundred : Number.Binary64 := .ofDecimal false 100 0

/-- `lv=40,rat<=100` is written for a query, and is refused. -/
theorem parse_text_hundred :
    Condition.parse "lv=40" = .ok (.level .eq 40) ∧
      ∃ c ∈ [Condition.level .eq 40, .rating .le hundred], c.IsSplit ∧
        Query.parse "lv=40,rat<=100" =
          .error (.invalidCondition c.text (Condition.clauseTokens c.text)) := by
  have hsplit : (Condition.rating .le hundred).IsSplit := by decide +kernel
  have htext : Query.text ⟨[.level .eq 40, .rating .le hundred]⟩ = "lv=40,rat<=100" := by
    decide +kernel
  refine ⟨(parse_text.1 (.level .eq 40) (by decide)).1 (by decide), ?_⟩
  rw [← htext]
  refine (parse_text.2 ⟨[.level .eq 40, .rating .le hundred]⟩ ?_).2
    ⟨_, List.mem_cons_of_mem _ List.mem_cons_self, hsplit⟩
  simp only [List.forall_mem_cons]
  exact ⟨by decide, by decide +kernel, List.forall_mem_nil _⟩

end ChartCatalog
