import ChartCatalog.Text.Blank

/-!
# Parts with blanks around them

`Spaced parts s` says that the text `s` consists of the parts, in order, with any
number of blanks before, between and after them. It is the relation between a
clause and its tokens, and the form in which the grammar of clauses is stated:
parts may touch, so one text can be spaced in several ways, and which of them
the tokens are is a matter of the shapes of tokens.
-/

namespace ChartCatalog.Text

theorem isBlankText_append {s t : List Char} (hs : isBlankText s = true)
    (ht : isBlankText t = true) : isBlankText (s ++ t) = true := by
  rw [isBlankText, List.all_append, Bool.and_eq_true]
  exact ⟨hs, ht⟩

/-- The text consists of the parts with blanks around and between them. -/
inductive Spaced : List (List Char) → List Char → Prop
  | nil {blanks : List Char} : isBlankText blanks = true → Spaced [] blanks
  | cons {blanks part s : List Char} {parts : List (List Char)} :
      isBlankText blanks = true → Spaced parts s → Spaced (part :: parts) (blanks ++ part ++ s)

namespace Spaced

variable {part s : List Char} {parts : List (List Char)}

/-- A part right at the start. -/
theorem cons_append (h : Spaced parts s) : Spaced (part :: parts) (part ++ s) :=
  .cons (show isBlankText [] = true from rfl) h

/-- No blanks at all. -/
theorem flatten (parts : List (List Char)) : Spaced parts parts.flatten := by
  induction parts with
  | nil => exact .nil rfl
  | cons part parts ih => exact .cons_append ih

/-- More blanks in front change nothing. -/
theorem append_blanks {blanks : List Char} (hb : isBlankText blanks = true)
    (h : Spaced parts s) : Spaced parts (blanks ++ s) := by
  cases h with
  | nil hs => exact .nil (isBlankText_append hb hs)
  | cons hw hs =>
    rw [List.append_assoc, ← List.append_assoc, ← List.append_assoc]
    exact .cons (isBlankText_append hb hw) hs

/-- The characters of the parts are characters of the text. -/
theorem mem_of_mem (h : Spaced parts s) (hpart : part ∈ parts) {c : Char} (hc : c ∈ part) :
    c ∈ s := by
  induction h with
  | nil _ => exact absurd hpart List.not_mem_nil
  | cons _ _ ih =>
    rcases List.mem_cons.mp hpart with rfl | hpart
    · simp [hc]
    · simp [ih hpart]

/-- The characters of the text are those of the parts, and blanks. -/
theorem mem_cases (h : Spaced parts s) {c : Char} (hc : c ∈ s) :
    isBlank c = true ∨ ∃ part ∈ parts, c ∈ part := by
  induction h with
  | nil hb => exact .inl (List.all_eq_true.mp hb c hc)
  | cons hb _ ih =>
    rcases List.mem_append.mp hc with hc | hc
    · rcases List.mem_append.mp hc with hc | hc
      · exact .inl (List.all_eq_true.mp hb c hc)
      · exact .inr ⟨_, List.mem_cons_self, hc⟩
    · refine (ih hc).imp_right ?_
      rintro ⟨part, hpart, hmem⟩
      exact ⟨part, List.mem_cons_of_mem _ hpart, hmem⟩

/-- Parts without blanks in them are, put together, the text without its blanks. -/
theorem flatten_eq_filter (h : Spaced parts s)
    (hparts : ∀ part ∈ parts, ∀ c ∈ part, isBlank c = false) :
    parts.flatten = s.filter (!isBlank ·) := by
  have hblanks : ∀ blanks, isBlankText blanks = true → blanks.filter (!isBlank ·) = [] := by
    intro blanks hb
    simpa [isBlankText] using hb
  induction h with
  | nil hb => rw [hblanks _ hb, List.flatten_nil]
  | @cons blanks part s parts hb _ ih =>
    have hpart : part.filter (!isBlank ·) = part := by
      rw [List.filter_eq_self]
      intro c hc
      simp [hparts part List.mem_cons_self c hc]
    rw [List.filter_append, List.filter_append, hblanks blanks hb, hpart, List.nil_append,
      List.flatten_cons, ih fun part hp => hparts part (List.mem_cons_of_mem _ hp)]

end Spaced

end ChartCatalog.Text
