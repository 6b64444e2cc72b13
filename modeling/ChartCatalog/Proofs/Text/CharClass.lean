import ChartCatalog.Text.AsciiCase
import ChartCatalog.Text.Blank
import ChartCatalog.Text.DecimalDigit
import ChartCatalog.Text.LowerCase
import ChartCatalog.Token

/-!
# Characters that cannot be confused

The shapes of tokens test characters for being blanks, digits, small letters or
one of a few signs. Which shape wins on a text is decided by the fact that these
classes do not meet: sets given by intervals are apart as soon as their
intervals are (`CharSet.contains_eq_false_of_apart`). Text in lower case has no
ASCII capitals (`isUpper_of_mem_lowerCase`), and ASCII text without capitals is
its own lower case (`lowerCase_of_isPlain`).
-/

namespace ChartCatalog.Text

/-! ## Lists of characters -/

/-- What holds of each member of a list is decided member by member. For lists of
characters the instance of the quantifier alone may go through all characters. -/
theorem forall_mem_of_all {α : Type} {p : α → Prop} [DecidablePred p] {l : List α}
    (h : l.all (fun a => decide (p a)) = true) : ∀ a ∈ l, p a := by
  intro a ha
  exact of_decide_eq_true (List.all_eq_true.mp h a ha)

/-! ## Sets of characters that are apart -/

/-- No interval of one set meets an interval of the other. -/
def CharSet.apart (s t : CharSet) : Bool :=
  s.all fun a => t.all fun b => a.2 < b.1 || b.2 < a.1

theorem CharSet.contains_eq_false_of_apart {s t : CharSet} (h : s.apart t = true) {c : Char}
    (hc : s.contains c = true) : t.contains c = false := by
  obtain ⟨a, ha, hlow, hhigh⟩ := CharSet.contains_iff.mp hc
  rw [Bool.eq_false_iff]
  intro ht
  obtain ⟨b, hb, hlow', hhigh'⟩ := CharSet.contains_iff.mp ht
  have hab := List.all_eq_true.mp (List.all_eq_true.mp h a ha) b hb
  simp only [Bool.or_eq_true, decide_eq_true_eq] at hab
  omega

/-- A digit of any script is no blank. -/
theorem isBlank_of_isDecimalDigit {c : Char} (h : isDecimalDigit c = true) :
    isBlank c = false :=
  CharSet.contains_eq_false_of_apart (s := decimalDigits) (by decide) h

/-- Classes that do not meet: membership in one refutes membership in the other. -/
theorem eq_false_of_class {p q : Char → Bool} {c : Char} (hpq : q c = true → p c = false)
    (hc : p c = true) : q c = false := by
  rw [Bool.eq_false_iff]
  intro hq
  rw [hpq hq] at hc
  exact absurd hc (by decide)

/-- The same for a class of which all members are listed. -/
theorem eq_false_of_mem {p q : Char → Bool} {l : List Char} (hq : ∀ {d}, q d = true → d ∈ l)
    (hp : l.any p = false) {c : Char} (hc : p c = true) : q c = false := by
  refine eq_false_of_class (fun hqc => ?_) hc
  rw [Bool.eq_false_iff]
  exact List.any_eq_false.mp hp c (hq hqc)

/-! ## Small letters -/

/-- The small letters as a set of one interval. -/
theorem contains_of_isSmallLetter {c : Char} (h : Token.isSmallLetter c = true) :
    CharSet.contains [(0x61, 0x7A)] c = true := by
  simp only [Token.isSmallLetter, Bool.and_eq_true, decide_eq_true_eq] at h
  exact CharSet.contains_iff.mpr ⟨_, List.mem_singleton_self _, h.1, h.2⟩

theorem isDecimalDigit_of_isSmallLetter {c : Char} (h : Token.isSmallLetter c = true) :
    isDecimalDigit c = false :=
  CharSet.contains_eq_false_of_apart (s := [(0x61, 0x7A)]) (by decide)
    (contains_of_isSmallLetter h)

theorem isBlank_of_isSmallLetter {c : Char} (h : Token.isSmallLetter c = true) :
    isBlank c = false :=
  CharSet.contains_eq_false_of_apart (s := [(0x61, 0x7A)]) (by decide)
    (contains_of_isSmallLetter h)

/-! ## Digits -/

/-- ASCII digits alone. -/
def IsDigits (s : List Char) : Prop := ∀ c ∈ s, c.isDigit = true

theorem isDigits_iff_all {s : List Char} : IsDigits s ↔ s.all Char.isDigit = true :=
  List.all_eq_true.symm

instance (s : List Char) : Decidable (IsDigits s) := decidable_of_iff _ isDigits_iff_all.symm

theorem IsDigits.append {s t : List Char} (hs : IsDigits s) (ht : IsDigits t) :
    IsDigits (s ++ t) := by
  intro c hc
  rcases List.mem_append.mp hc with hc | hc
  · exact hs c hc
  · exact ht c hc

theorem IsDigits.not_mem {s : List Char} (h : IsDigits s) {c : Char} (hc : c.isDigit = false) :
    c ∉ s := by
  intro hmem
  rw [h c hmem] at hc
  exact absurd hc (by decide)

/-- What holds of the ten digits holds of every digit. -/
theorem forall_isDigit {p : Char → Prop} (h : ∀ n : Fin 10, p (Char.ofNat (48 + n.val)))
    {c : Char} (hc : c.isDigit = true) : p c := by
  have hrange : 48 ≤ c.toNat ∧ c.toNat ≤ 57 := by
    simpa [Char.isDigit, UInt32.le_iff_toNat_le] using hc
  have hlt : c.toNat - 48 < 10 := by omega
  have hsum : 48 + (c.toNat - 48) = c.toNat := by omega
  have hdigit : p (Char.ofNat (48 + (c.toNat - 48))) := h ⟨c.toNat - 48, hlt⟩
  rwa [hsum, Char.ofNat_toNat] at hdigit

/-! ## Blanks at the ends -/

theorem trim_of_not_blank {s : List Char} (h : ∀ c ∈ s, isBlank c = false) : trim s = s := by
  have hdrop : ∀ l : List Char, (∀ c ∈ l, isBlank c = false) → l.dropWhile isBlank = l := by
    intro l hl
    cases l with
    | nil => rfl
    | cons c l => rw [List.dropWhile_cons, if_neg (by simp [hl c List.mem_cons_self])]
  rw [trim, trimLeft, trimRight, hdrop s h, hdrop s.reverse, List.reverse_reverse]
  intro c hc
  exact h c (List.mem_reverse.mp hc)

/-! ## Lower case -/

theorem isUpper_eq_false_iff {c : Char} :
    c.isUpper = false ↔ c.toNat < 0x41 ∨ 0x5A < c.toNat := by
  show decide (0x41 ≤ c.toNat ∧ c.toNat ≤ 0x5A) = false ↔ _
  rw [decide_eq_false_iff_not]
  omega

theorem isUpper_toLower (c : Char) : c.toLower.isUpper = false := by
  rw [isUpper_eq_false_iff]
  unfold Char.toLower
  split
  · rename_i h
    have hlow : 0x41 ≤ c.val.toNat := h.1
    have hhigh : c.val.toNat ≤ 0x5A := h.2
    show (c.val + 0x20).toNat < 0x41 ∨ 0x5A < (c.val + 0x20).toNat
    rw [UInt32.toNat_add]
    have : (0x20 : UInt32).toNat = 0x20 := rfl
    omega
  · rename_i h
    have : ¬ (0x41 ≤ c.toNat ∧ c.toNat ≤ 0x5A) := h
    omega

/-- The small letter of a capital is no digit. -/
theorem isUpper_of_isDigit_toLower {c : Char} (h : c.toLower.isDigit = true) :
    c.isUpper = false := by
  have hdigit : c.toLower.val.toNat ≤ 57 := by
    simp only [Char.isDigit, Bool.and_eq_true, decide_eq_true_eq, UInt32.le_iff_toNat_le] at h
    exact h.2
  rw [isUpper_eq_false_iff]
  unfold Char.toLower at hdigit
  split at hdigit
  · rename_i hupper
    have hlow : 0x41 ≤ c.val.toNat := hupper.1
    have hhigh : c.val.toNat ≤ 0x5A := hupper.2
    have hsum : (c.val + 0x20).toNat ≤ 57 := hdigit
    rw [UInt32.toNat_add] at hsum
    have : (0x20 : UInt32).toNat = 0x20 := rfl
    omega
  · rename_i hupper
    have : ¬ (0x41 ≤ c.toNat ∧ c.toNat ≤ 0x5A) := hupper
    omega

theorem isUpper_ofNat {n : Nat} (h : 0x5A < n) : (Char.ofNat n).isUpper = false := by
  rw [isUpper_eq_false_iff]
  unfold Char.ofNat
  by_cases hvalid : n.isValidChar
  · rw [dif_pos hvalid]
    exact .inr h
  · -- what is no code point becomes the zero character
    rw [dif_neg hvalid]
    exact .inl (by decide)

/-- The small letters above ASCII lie beyond the ASCII capitals. -/
theorem lt_offset_of_mem_caseRuns {run : CaseRun} (h : run ∈ caseRuns) :
    0x5A < run.first + run.offset := by
  have all : ∀ run ∈ caseRuns, (0x5A : Int) < run.first + run.offset := by decide +kernel
  exact all run h

theorem isUpper_of_mem_lowerChar {c d : Char} (h : d ∈ lowerChar c) : d.isUpper = false := by
  unfold lowerChar at h
  split at h
  · rw [List.mem_singleton.mp h]
    exact isUpper_toLower c
  · split at h
    · rcases List.mem_cons.mp h with rfl | h
      · decide
      · rw [List.mem_singleton.mp h]
        decide
    · split at h
      · rename_i run hrun
        rw [List.mem_singleton.mp h]
        have hcovers := List.find?_some hrun
        simp only [CaseRun.covers, Bool.and_eq_true, decide_eq_true_eq] at hcovers
        have hoffset := lt_offset_of_mem_caseRuns (List.mem_of_find?_eq_some hrun)
        exact isUpper_ofNat (by omega)
      · rw [List.mem_singleton.mp h, isUpper_eq_false_iff]
        omega

theorem isUpper_of_mem_lowerFrom {afterCased : Bool} {s : List Char} {c : Char}
    (h : c ∈ lowerFrom afterCased s) : c.isUpper = false := by
  induction s generalizing afterCased with
  | nil => exact absurd h List.not_mem_nil
  | cons d s ih =>
    simp only [lowerFrom, List.mem_append] at h
    rcases h with h | h
    · split at h
      · -- a sigma, in the middle or at the end of a word
        split at h <;> rw [List.mem_singleton.mp h] <;> decide
      · exact isUpper_of_mem_lowerChar h
    · exact ih h

/-- Text in lower case has no ASCII capitals. -/
theorem isUpper_of_mem_lowerCase {s : List Char} {c : Char} (h : c ∈ lowerCase s) :
    c.isUpper = false :=
  isUpper_of_mem_lowerFrom h

/-- A character that is its own lower case stays in the text. -/
theorem mem_lowerFrom {afterCased : Bool} {s : List Char} {c : Char} (hsigma : c ≠ 'Σ')
    (hlower : lowerChar c = [c]) (h : c ∈ s) : c ∈ lowerFrom afterCased s := by
  induction s generalizing afterCased with
  | nil => exact absurd h List.not_mem_nil
  | cons d s ih =>
    rw [lowerFrom, List.mem_append]
    rcases List.mem_cons.mp h with rfl | h
    · left
      rw [if_neg hsigma, hlower]
      exact List.mem_singleton_self c
    · exact .inr (ih h)

theorem toLower_of_not_isUpper {c : Char} (h : c.isUpper = false) : c.toLower = c := by
  unfold Char.toLower
  exact dif_neg (of_decide_eq_false h)

/-- Text without ASCII capitals is not changed. -/
theorem asciiLower_of_not_isUpper {s : List Char} (h : ∀ c ∈ s, c.isUpper = false) :
    asciiLower s = s := by
  unfold asciiLower
  rw [List.map_congr_left fun c hc => toLower_of_not_isUpper (h c hc), List.map_id']

/-- ASCII text without capitals. -/
def IsPlain (s : List Char) : Prop := ∀ c ∈ s, c.toNat < 0x80 ∧ c.isUpper = false

theorem lowerFrom_of_isPlain {afterCased : Bool} {s : List Char} (h : IsPlain s) :
    lowerFrom afterCased s = s := by
  induction s generalizing afterCased with
  | nil => rfl
  | cons c s ih =>
    obtain ⟨hascii, hsmall⟩ := h c List.mem_cons_self
    have hsigma : c ≠ 'Σ' := by
      rintro rfl
      exact absurd hascii (by decide)
    simp only [lowerFrom, if_neg hsigma, lowerChar_of_ascii hascii, toLower_of_not_isUpper hsmall,
      ih fun d hd => h d (List.mem_cons_of_mem _ hd), List.singleton_append]

/-- ASCII text without capitals is its own lower case. -/
theorem lowerCase_of_isPlain {s : List Char} (h : IsPlain s) : lowerCase s = s :=
  lowerFrom_of_isPlain h

end ChartCatalog.Text
