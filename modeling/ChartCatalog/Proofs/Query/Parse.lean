import ChartCatalog.Proofs.Traversal
import ChartCatalog.Query

/-!
# Reading a filter

A filter is read clause by clause: it is a query if all its clauses are
conditions, and these are the conditions of the query (`parse_eq_ok_iff`);
otherwise the error is that of the first clause that is none
(`parse_eq_error_iff`). Clauses without commas and blanks in them are read back
from a filter that consists of them (`clauses_join`).
-/

namespace ChartCatalog

open Text

namespace Query

theorem parse_eq_ok_iff {filter : String} {query : Query} :
    parse filter = .ok query ↔
      (clauses filter).map Condition.parse = query.conditions.map .ok := by
  rw [← mapM_eq_ok_iff, parse]
  cases (clauses filter).mapM Condition.parse with
  | error e => simp [Except.map]
  | ok conditions =>
    simp only [Except.map, Except.ok.injEq]
    constructor
    · rintro rfl
      rfl
    · rintro rfl
      rfl

theorem parse_eq_error_iff {filter : String} {e : CatalogError} :
    parse filter = .error e ↔ ∃ before clause after,
      clauses filter = before ++ clause :: after ∧
        (∀ x ∈ before, ∃ c, Condition.parse x = .ok c) ∧ Condition.parse clause = .error e := by
  rw [← mapM_eq_error_iff, parse]
  cases (clauses filter).mapM Condition.parse with
  | error e' => simp [Except.map]
  | ok conditions => simp [Except.map]

/-! ## The conditions of a filter -/

variable {filter : String} {query : Query}

theorem mem_conditions_iff (h : parse filter = .ok query) {c : Condition} :
    c ∈ query.conditions ↔ ∃ clause ∈ clauses filter, Condition.parse clause = .ok c := by
  have hconditions : c ∈ query.conditions ↔
      (.ok c : Except CatalogError Condition) ∈ query.conditions.map .ok := by
    rw [List.mem_map]
    constructor
    · intro hc
      exact ⟨c, hc, rfl⟩
    · rintro ⟨c', hc', heq⟩
      rwa [← Except.ok.inj heq]
  rw [hconditions, ← parse_eq_ok_iff.mp h, List.mem_map]

theorem exists_condition_of_mem (h : parse filter = .ok query) {clause : String}
    (hclause : clause ∈ clauses filter) : ∃ c, Condition.parse clause = .ok c := by
  have hmem := List.mem_map_of_mem (f := Condition.parse) hclause
  rw [parse_eq_ok_iff.mp h] at hmem
  obtain ⟨c, -, hc⟩ := List.mem_map.mp hmem
  exact ⟨c, hc.symm⟩

/-- There are conditions if there are clauses. -/
theorem conditions_eq_nil_iff (h : parse filter = .ok query) :
    query.conditions = [] ↔ clauses filter = [] := by
  have hlength := congrArg List.length (parse_eq_ok_iff.mp h)
  rw [List.length_map, List.length_map] at hlength
  rw [← List.length_eq_zero_iff, ← List.length_eq_zero_iff, hlength]

theorem parse_isError_iff : (∃ e, parse filter = .error e) ↔
    ∃ clause ∈ clauses filter, ∃ e, Condition.parse clause = .error e := by
  constructor
  · rintro ⟨e, h⟩
    obtain ⟨before, clause, after, hclauses, -, hclause⟩ := parse_eq_error_iff.mp h
    exact ⟨clause, by simp [hclauses], e, hclause⟩
  · rintro ⟨clause, hmem, e, hclause⟩
    cases h : parse filter with
    | error e' => exact ⟨e', rfl⟩
    | ok query =>
      obtain ⟨c, hc⟩ := exists_condition_of_mem h hmem
      rw [hc] at hclause
      exact absurd hclause (by simp)

/-! ## Clauses that are put together -/

theorem splitOn_of_not_mem {separator : Char} {s : List Char} (h : separator ∉ s) :
    splitOn separator s = [s] := by
  unfold splitOn
  induction s with
  | nil => rfl
  | cons c s ih =>
    rw [List.mem_cons, not_or] at h
    rw [splitWhere, if_neg (by simpa using fun hc => h.1 hc.symm), ih h.2]

theorem splitOn_join {separator : Char} {parts : List (List Char)} (hne : parts ≠ [])
    (h : ∀ part ∈ parts, separator ∉ part) :
    splitOn separator (join [separator] parts) = parts := by
  induction parts with
  | nil => exact absurd rfl hne
  | cons part parts ih =>
    simp only [List.forall_mem_cons] at h
    cases parts with
    | nil => exact splitOn_of_not_mem h.1
    | cons next parts =>
      have hrest := ih (List.cons_ne_nil _ _) h.2
      have hpart := splitOn_of_not_mem h.1
      unfold splitOn at hrest hpart ⊢
      show splitWhere _ (part ++ [separator] ++ join [separator] (next :: parts)) = _
      rw [List.append_assoc, List.singleton_append, splitWhere_append _ _ _ (by simp), hpart,
        hrest, List.singleton_append]

/-- The clauses of which a filter is put together, if none of them is blank or
has a comma in it. -/
theorem clauses_join {parts : List (List Char)} (hcomma : ∀ part ∈ parts, separator ∉ part)
    (hblank : ∀ part ∈ parts, isBlankText part = false) :
    clauses (String.ofList (join [separator] parts)) = parts.map String.ofList := by
  unfold clauses
  rw [String.toList_ofList]
  cases parts with
  | nil => rfl
  | cons part parts =>
    rw [splitOn_join (List.cons_ne_nil _ _) hcomma]
    have hall : (part :: parts).filter (!isBlankText ·) = part :: parts := by
      rw [List.filter_eq_self]
      intro s hs
      rw [hblank s hs]
      rfl
    rw [hall]

end Query

end ChartCatalog
