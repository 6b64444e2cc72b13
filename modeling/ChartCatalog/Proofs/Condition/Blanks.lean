import ChartCatalog.Proofs.Condition.Clause

/-!
# Blanks around a clause

Putting a text into lower case looks at the letters before and after a capital sigma,
but never beyond a blank (`lowerCase_append_blank`), and neither does cutting it into
tokens. So the blanks around a clause change nothing but the text that an error shows
(`clauseTokens_trimString`).
-/

namespace ChartCatalog

/-! ## Lower case on the two sides of a blank -/

namespace Text

variable {b : Char}

theorem isCased_of_isBlank (hb : isBlank b = true) : isCased b = false :=
  CharSet.contains_eq_false_of_apart (s := blanks) (by decide +kernel) hb

theorem isCaseIgnorable_of_isBlank (hb : isBlank b = true) : isCaseIgnorable b = false :=
  CharSet.contains_eq_false_of_apart (s := blanks) (by decide +kernel) hb

/-- Blanks have no case. -/
theorem lowerChar_of_isBlank (hb : isBlank b = true) : lowerChar b = [b] := by
  obtain ⟨interval, hmem, hlow, hhigh⟩ := CharSet.contains_iff.mp hb
  unfold lowerChar
  split
  · -- an ASCII blank is no capital letter
    have hascii : ∀ interval ∈ blanks, interval.2 < 0x41 ∨ 0x5A < interval.1 := by decide
    have hupper : b.isUpper = false := by
      rw [isUpper_eq_false_iff]
      have := hascii interval hmem
      omega
    rw [toLower_of_not_isUpper hupper]
  · have hdotted : b ≠ 'İ' := by
      rintro rfl
      exact absurd hb (by decide)
    have hrun : caseRuns.find? (·.covers b.toNat) = none := by
      have hapart : ∀ run ∈ caseRuns, ∀ interval ∈ blanks,
          run.last < interval.1 ∨ interval.2 < run.first := by decide +kernel
      rw [List.find?_eq_none]
      intro run hmem' hcovers
      simp only [CaseRun.covers, Bool.and_eq_true, decide_eq_true_eq] at hcovers
      have := hapart run hmem' interval hmem
      omega
    rw [if_neg hdotted, hrun]

theorem startsCased_append_blank (hb : isBlank b = true) (s t : List Char) :
    startsCased (s ++ b :: t) = startsCased s := by
  unfold startsCased
  rw [Token.dropWhile_append_cons (isCaseIgnorable_of_isBlank hb)]
  cases s.dropWhile isCaseIgnorable with
  | nil => exact isCased_of_isBlank hb
  | cons c s => rfl

theorem lowerFrom_append_blank (afterCased : Bool) (hb : isBlank b = true) (s t : List Char) :
    lowerFrom afterCased (s ++ b :: t) = lowerFrom afterCased s ++ b :: lowerFrom false t := by
  induction s generalizing afterCased with
  | nil =>
    have hsigma : b ≠ 'Σ' := by
      rintro rfl
      exact absurd hb (by decide)
    simp [lowerFrom, hsigma, lowerChar_of_isBlank hb, isCaseIgnorable_of_isBlank hb,
      isCased_of_isBlank hb]
  | cons c s ih =>
    rw [List.cons_append, lowerFrom, lowerFrom, startsCased_append_blank hb, ih, List.append_assoc]

/-- The texts on the two sides of a blank are put into lower case on their own. -/
theorem lowerCase_append_blank (hb : isBlank b = true) (s t : List Char) :
    lowerCase (s ++ b :: t) = lowerCase s ++ b :: lowerCase t :=
  lowerFrom_append_blank false hb s t

/-! ## The blanks at the ends -/

theorem isBlankText_takeWhile (s : List Char) : isBlankText (s.takeWhile isBlank) = true :=
  List.all_takeWhile

/-- A text is its trimmed text with blanks on either side. -/
theorem exists_blanks_trim (s : List Char) : ∃ before after,
    isBlankText before = true ∧ isBlankText after = true ∧ s = before ++ trim s ++ after := by
  refine ⟨s.takeWhile isBlank, ((trimLeft s).reverse.takeWhile isBlank).reverse, ?_, ?_, ?_⟩
  · exact isBlankText_takeWhile s
  · rw [isBlankText, List.all_reverse]
    exact isBlankText_takeWhile _
  · have hleft : trimLeft s = trim s ++ ((trimLeft s).reverse.takeWhile isBlank).reverse := by
      rw [trim, trimRight, ← List.reverse_append, List.takeWhile_append_dropWhile,
        List.reverse_reverse]
    rw [List.append_assoc, ← hleft, trimLeft, List.takeWhile_append_dropWhile]

end Text

/-! ## The tokens of a clause -/

namespace Condition

open Text Token

theorem scan_lowerCase_append_blank {b : Char} (hb : isBlank b = true) (s t : List Char) :
    scan (lowerCase (s ++ b :: t)) = scan (lowerCase s) ++ scan (lowerCase t) := by
  rw [lowerCase_append_blank hb, scan_append_blank _ _ hb]

theorem scan_lowerCase_blanks_append {blanks : List Char} (hb : isBlankText blanks = true)
    (s : List Char) : scan (lowerCase (blanks ++ s)) = scan (lowerCase s) := by
  induction blanks with
  | nil => rfl
  | cons b blanks ih =>
    rw [isBlankText, List.all_cons, Bool.and_eq_true] at hb
    have hfirst := scan_lowerCase_append_blank hb.1 [] (blanks ++ s)
    rw [lowerCase_nil, scan_nil, List.nil_append, List.nil_append] at hfirst
    rw [List.cons_append, hfirst]
    exact ih hb.2

theorem scan_lowerCase_append_blanks {blanks : List Char} (hb : isBlankText blanks = true)
    (s : List Char) : scan (lowerCase (s ++ blanks)) = scan (lowerCase s) := by
  cases blanks with
  | nil => rw [List.append_nil]
  | cons b blanks =>
    rw [isBlankText, List.all_cons, Bool.and_eq_true] at hb
    have hrest := scan_lowerCase_blanks_append hb.2 []
    rw [List.append_nil, lowerCase_nil, scan_nil] at hrest
    rw [scan_lowerCase_append_blank hb.1, hrest, List.append_nil]

theorem scan_lowerCase_trim (s : List Char) :
    scan (lowerCase (trim s)) = scan (lowerCase s) := by
  obtain ⟨before, after, hbefore, hafter, hs⟩ := exists_blanks_trim s
  conv_rhs => rw [hs]
  rw [scan_lowerCase_append_blanks hafter, scan_lowerCase_blanks_append hbefore]

/-- The blanks around a clause are not in its tokens. -/
theorem clauseTokens_trimString (clause : String) :
    clauseTokens (trimString clause) = clauseTokens clause := by
  unfold clauseTokens tokens trimString
  rw [String.toList_ofList, String.toList_ofList, String.toList_ofList, scan_lowerCase_trim]

/-! ## What a clause denotes -/

variable {clause : String}

/-- An error shows the clause as it was given, but for the blanks around it. -/
theorem parse_eq_error_iff {e : CatalogError} : parse clause = .error e ↔
    e = .invalidCondition (trimString clause) (clauseTokens clause) ∧
      ∀ c, parse clause ≠ .ok c := by
  unfold parse
  dsimp only
  split
  · simp
  · simp [eq_comm]

theorem parse_trimString_eq_ok_iff {c : Condition} :
    parse (trimString clause) = .ok c ↔ parse clause = .ok c := by
  rw [parse_eq_ok_iff, parse_eq_ok_iff, clauseTokens_trimString]

end Condition

end ChartCatalog
