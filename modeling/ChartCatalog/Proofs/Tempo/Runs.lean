import ChartCatalog.Proofs.Text.CharClass
import ChartCatalog.Tempo

/-!
# Maximal runs of digits

A maximal run is a stretch of decimal digits, of any script, that no digit stands next to.
`PlacedRuns` lists all of them with the places where they begin, and `runs` computes just
this list (`exists_placedRuns`).

All of it follows from what a character does that is no digit: the maximal runs of a text
are those on its left and those on its right (`isMaximalRun_append_iff`), and so are the
runs that are computed (`runs_append`). What is left are texts of digits alone.
-/

namespace ChartCatalog.Tempo

open Text

/-- The run stands between two parts of the text, and no digit stands next to it. -/
structure IsMaximalRun (s before run after : List Char) : Prop where
  split : s = before ++ run ++ after
  ne_nil : run ≠ []
  digits : ∀ c ∈ run, isDecimalDigit c = true
  last_before : ∀ c ∈ before.getLast?, isDecimalDigit c = false
  head_after : ∀ c ∈ after.head?, isDecimalDigit c = false

/-- All maximal runs of the text with their places, from left to right. -/
structure PlacedRuns (s : List Char) (placed : List (Nat × List Char)) : Prop where
  ascending : placed.Pairwise (·.1 < ·.1)
  mem_iff : ∀ start run, (start, run) ∈ placed ↔
    ∃ before after, IsMaximalRun s before run after ∧ before.length = start

variable {s x y before run after : List Char} {c : Char}

/-- A text is of digits alone, or it has a character that is none and shorter texts on
both sides of it. -/
theorem digit_induction {motive : List Char → Prop}
    (digits : ∀ s : List Char, (∀ c ∈ s, isDecimalDigit c = true) → motive s)
    (append : ∀ (x : List Char) (c : Char) (y : List Char), isDecimalDigit c = false →
      motive x → motive y → motive (x ++ c :: y)) (s : List Char) : motive s := by
  induction hlength : s.length using Nat.strongRecOn generalizing s with
  | ind n ih =>
    by_cases hall : ∀ c ∈ s, isDecimalDigit c = true
    · exact digits s hall
    · obtain ⟨c, hc, hdigit⟩ : ∃ c ∈ s, isDecimalDigit c = false := by simpa using hall
      obtain ⟨x, y, rfl⟩ := List.append_of_mem hc
      rw [List.length_append, List.length_cons] at hlength
      exact append x c y hdigit (ih x.length (by omega) x rfl) (ih y.length (by omega) y rfl)

/-! ## What `runs` computes -/

theorem runs_append (x : List Char) (hc : isDecimalDigit c = false) (y : List Char) :
    runs (x ++ c :: y) = runs x ++ runs y := by
  unfold runs
  rw [splitWhere_append _ x y (by rw [hc]; rfl), List.filter_append]

theorem runs_nil : runs [] = [] := rfl

theorem runs_of_digits (hne : s ≠ []) (h : ∀ c ∈ s, isDecimalDigit c = true) :
    runs s = [s] := by
  have hsplit : splitWhere (!isDecimalDigit ·) s = [s] := by
    clear hne
    induction s with
    | nil => rfl
    | cons c s ih =>
      simp only [List.forall_mem_cons] at h
      rw [splitWhere, h.1, ih h.2]
      rfl
  rw [runs, hsplit]
  simp [hne]

/-! ## Maximal runs -/

/-- In a text of digits alone the whole text is the only maximal run. -/
theorem isMaximalRun_digits_iff (hs : ∀ c ∈ s, isDecimalDigit c = true) :
    IsMaximalRun s before run after ↔ s ≠ [] ∧ before = [] ∧ run = s ∧ after = [] := by
  constructor
  · intro h
    -- a neighbour of the run would be a digit
    have hnone : ∀ {o : Option Char}, (∀ c ∈ o, isDecimalDigit c = false) → (∀ c ∈ o, c ∈ s) →
        o = none := by
      intro o hdigit hmem
      rw [Option.eq_none_iff_forall_not_mem]
      intro c hc
      have hnot := hdigit c hc
      rw [hs c (hmem c hc)] at hnot
      exact absurd hnot (by decide)
    have hbefore : before = [] := by
      rw [← List.getLast?_eq_none_iff]
      refine hnone h.last_before fun c hc => ?_
      rw [h.split]
      simp [List.mem_of_getLast? hc]
    have hafter : after = [] := by
      rw [← List.head?_eq_none_iff]
      refine hnone h.head_after fun c hc => ?_
      rw [h.split]
      simp [List.mem_of_mem_head? hc]
    have hsplit := h.split
    rw [hbefore, hafter, List.nil_append, List.append_nil] at hsplit
    exact ⟨by rw [hsplit]; exact h.ne_nil, hbefore, hsplit.symm, hafter⟩
  · rintro ⟨hne, rfl, rfl, rfl⟩
    exact ⟨by simp, hne, hs, by simp, by simp⟩

/-- A stretch without the character lies on one side of it. -/
theorem split_of_not_mem (hnot : c ∉ run) (h : x ++ c :: y = before ++ run ++ after) :
    (∃ after', after = after' ++ c :: y ∧ x = before ++ run ++ after') ∨
      ∃ before', before = x ++ c :: before' ∧ y = before' ++ run ++ after := by
  rw [List.append_assoc, List.append_eq_append_iff] at h
  rcases h with ⟨t, rfl, ht⟩ | ⟨t, rfl, ht⟩
  · cases t with
    | nil =>
      cases run with
      | nil => exact .inl ⟨[], ht.symm, by simp⟩
      | cons d run =>
        obtain ⟨rfl, -⟩ := List.cons.inj ht
        exact absurd List.mem_cons_self hnot
    | cons d t =>
      obtain ⟨rfl, rfl⟩ := List.cons.inj ht
      exact .inr ⟨t, rfl, (List.append_assoc ..).symm⟩
  · -- the stretch begins within `x`, so it ends there
    left
    rw [eq_comm, List.append_eq_append_iff] at ht
    rcases ht with ⟨u, rfl, hu⟩ | ⟨u, rfl, rfl⟩
    · cases u with
      | nil => exact ⟨[], hu.symm, by simp⟩
      | cons d u =>
        obtain ⟨rfl, -⟩ := List.cons.inj hu
        exact absurd (List.mem_append_right _ List.mem_cons_self) hnot
    · exact ⟨u, rfl, (List.append_assoc ..).symm⟩

theorem head?_append_eq_false (hc : isDecimalDigit c = false) :
    (∀ d ∈ (x ++ c :: y).head?, isDecimalDigit d = false) ↔
      ∀ d ∈ x.head?, isDecimalDigit d = false := by
  cases x with
  | nil => simp [hc]
  | cons d x => rfl

theorem getLast?_append_eq_false (hc : isDecimalDigit c = false) :
    (∀ d ∈ (x ++ c :: y).getLast?, isDecimalDigit d = false) ↔
      ∀ d ∈ y.getLast?, isDecimalDigit d = false := by
  rw [List.getLast?_append, List.getLast?_cons]
  cases y.getLast? with
  | none => simp [hc]
  | some d => rfl

/-- A maximal run does not reach over a character that is no digit. -/
theorem isMaximalRun_append_iff (hc : isDecimalDigit c = false) :
    IsMaximalRun (x ++ c :: y) before run after ↔
      (∃ after', after = after' ++ c :: y ∧ IsMaximalRun x before run after') ∨
      ∃ before', before = x ++ c :: before' ∧ IsMaximalRun y before' run after := by
  constructor
  · rintro ⟨hsplit, hne, hdigits, hlast, hhead⟩
    have hnot : c ∉ run := by
      intro hmem
      rw [hdigits c hmem] at hc
      exact absurd hc (by decide)
    rcases split_of_not_mem hnot hsplit with ⟨after', rfl, hx⟩ | ⟨before', rfl, hy⟩
    · exact .inl ⟨after', rfl, hx, hne, hdigits, hlast, (head?_append_eq_false hc).mp hhead⟩
    · exact .inr ⟨before', rfl, hy, hne, hdigits, (getLast?_append_eq_false hc).mp hlast, hhead⟩
  · rintro (⟨after', rfl, hx, hne, hdigits, hlast, hhead⟩ |
      ⟨before', rfl, hy, hne, hdigits, hlast, hhead⟩)
    · exact ⟨by simp [hx], hne, hdigits, hlast, (head?_append_eq_false hc).mpr hhead⟩
    · exact ⟨by simp [hy], hne, hdigits, (getLast?_append_eq_false hc).mpr hlast, hhead⟩

/-! ## All maximal runs -/

theorem placedRuns_append {left right : List (Nat × List Char)} (hc : isDecimalDigit c = false)
    (hleft : PlacedRuns x left) (hright : PlacedRuns y right) :
    PlacedRuns (x ++ c :: y) (left ++ right.map fun p => (x.length + 1 + p.1, p.2)) := by
  constructor
  · rw [List.pairwise_append]
    refine ⟨hleft.ascending, ?_, ?_⟩
    · rw [List.pairwise_map]
      exact hright.ascending.imp fun h => by omega
    · intro p hp q hq
      obtain ⟨start, run⟩ := p
      obtain ⟨before, after, hrun, rfl⟩ := (hleft.mem_iff start run).mp hp
      obtain ⟨q, -, rfl⟩ := List.mem_map.mp hq
      have hlength := congrArg List.length hrun.split
      rw [List.length_append, List.length_append] at hlength
      show before.length < x.length + 1 + q.1
      omega
  · intro start run
    simp only [List.mem_append, List.mem_map, isMaximalRun_append_iff hc, hleft.mem_iff]
    constructor
    · rintro (⟨before, after, hrun, rfl⟩ | ⟨⟨start', run'⟩, hmem, heq⟩)
      · exact ⟨before, _, .inl ⟨after, rfl, hrun⟩, rfl⟩
      · obtain ⟨rfl, rfl⟩ := Prod.mk.inj heq
        obtain ⟨before, after, hrun, rfl⟩ := (hright.mem_iff _ _).mp hmem
        refine ⟨_, after, .inr ⟨before, rfl, hrun⟩, ?_⟩
        rw [List.length_append, List.length_cons]
        omega
    · rintro ⟨before, after, ⟨after', rfl, hrun⟩ | ⟨before', rfl, hrun⟩, rfl⟩
      · exact .inl ⟨before, after', hrun, rfl⟩
      · refine .inr ⟨(before'.length, run), (hright.mem_iff _ _).mpr ⟨_, _, hrun, rfl⟩, ?_⟩
        rw [List.length_append, List.length_cons]
        congr 1
        omega

theorem placedRuns_digits (hs : ∀ c ∈ s, isDecimalDigit c = true) :
    PlacedRuns s ((runs s).map fun run => (0, run)) := by
  by_cases hne : s = []
  · subst hne
    refine ⟨.nil, fun start run => ⟨fun h => absurd h List.not_mem_nil, ?_⟩⟩
    rintro ⟨before, after, hrun, -⟩
    exact absurd rfl ((isMaximalRun_digits_iff hs).mp hrun).1
  · rw [runs_of_digits hne hs]
    refine ⟨List.pairwise_singleton _ _, fun start run => ?_⟩
    simp only [isMaximalRun_digits_iff hs, List.map_cons, List.map_nil, List.mem_singleton,
      Prod.mk.injEq]
    constructor
    · rintro ⟨rfl, rfl⟩
      exact ⟨[], [], ⟨hne, rfl, rfl, rfl⟩, rfl⟩
    · rintro ⟨before, after, ⟨-, rfl, rfl, rfl⟩, rfl⟩
      exact ⟨rfl, rfl⟩

/-- The runs that are computed are all maximal runs from left to right. -/
theorem exists_placedRuns (s : List Char) :
    ∃ placed, PlacedRuns s placed ∧ placed.map Prod.snd = runs s := by
  induction s using digit_induction with
  | digits s hs =>
    refine ⟨_, placedRuns_digits hs, ?_⟩
    rw [List.map_map]
    exact List.map_id _
  | append x c y hc hx hy =>
    obtain ⟨left, hleft, hleftRuns⟩ := hx
    obtain ⟨right, hright, hrightRuns⟩ := hy
    refine ⟨_, placedRuns_append hc hleft hright, ?_⟩
    rw [runs_append x hc y, List.map_append, List.map_map, hleftRuns, ← hrightRuns]
    rfl

end ChartCatalog.Tempo
