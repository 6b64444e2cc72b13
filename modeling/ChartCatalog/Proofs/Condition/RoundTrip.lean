import ChartCatalog.Proofs.Condition.Clause
import ChartCatalog.Proofs.Number.Positional

/-!
# Reading back a condition

The text of a well-formed condition is a clause for it, with one exception: a
rating in digits alone, if there are at least three and an odd number of them, is
cut into two tokens and refused (`Rating.IsSplit`). So a text is read back as
its own condition (`parse_text_of_not_isSplit`) or not at all
(`parse_text_of_isSplit`).
-/

namespace ChartCatalog

open Number Text Token

/-- A number whose text is an odd number of digits, three or more. -/
def Rating.IsSplit (rating : Binary64) : Prop :=
  IsDigits rating.positionalText ∧ rating.positionalText.length % 2 = 1 ∧
    3 ≤ rating.positionalText.length

instance (rating : Binary64) : Decidable (Rating.IsSplit rating) :=
  inferInstanceAs (Decidable (_ ∧ _ ∧ _))

namespace Condition

/-- A comparison with a rating that is split. -/
def IsSplit : Condition → Prop
  | rating _ value => Rating.IsSplit value
  | _ => False

instance (c : Condition) : Decidable c.IsSplit :=
  match c with
  | rating _ value => inferInstanceAs (Decidable (Rating.IsSplit value))
  | never | level .. | halfLevel .. | sranLevel .. | difficulty .. | flag _ | folder .. =>
    isFalse id

instance (c : Condition) : Decidable c.WellFormed :=
  match c with
  | level _ value => inferInstanceAs (Decidable (lowestLevel ≤ value ∧ value ≤ highestLevel))
  | halfLevel _ value _ => inferInstanceAs (Decidable (lowestLevel ≤ value ∧ value ≤ highestLevel))
  | rating _ value => inferInstanceAs (Decidable (value.isFinite = true))
  | difficulty _ values => inferInstanceAs (Decidable (values ≠ [] ∧ values.Nodup))
  | folder _ value => inferInstanceAs (Decidable value.Exists)
  | never | sranLevel .. | flag _ => isTrue trivial

/-! ## The characters of a text -/

/-- The signs and marks with which conditions are written. -/
def textMarks : List Char := ['=', '!', '<', '>', '+', '-', '.']

/-- The characters with which conditions are written. -/
def isTextChar (c : Char) : Bool := isSmallLetter c || c.isDigit || textMarks.contains c

/-- A text of these characters. -/
def IsText (s : List Char) : Prop := s.all isTextChar = true

instance (s : List Char) : Decidable (IsText s) :=
  inferInstanceAs (Decidable (s.all isTextChar = true))

theorem IsText.append {s t : List Char} (hs : IsText s) (ht : IsText t) : IsText (s ++ t) := by
  rw [IsText, List.all_append, Bool.and_eq_true]
  exact ⟨hs, ht⟩

theorem isTextChar_cases {c : Char} (h : isTextChar c = true) :
    isSmallLetter c = true ∨ c.isDigit = true ∨ c ∈ textMarks := by
  simpa [isTextChar, or_assoc] using h

theorem isText_of_isDigits {s : List Char} (h : IsDigits s) : IsText s := by
  refine List.all_eq_true.mpr fun d hd => ?_
  rw [isTextChar, h d hd, Bool.or_true, Bool.true_or]

theorem isText_sign {sign : List Char} (h : sign ∈ signs) : IsText sign := by
  have all : ∀ sign ∈ signs, IsText sign := by decide
  exact all sign h

theorem isText_of_decimals {s w f : List Char} (h : Decimals s w f) : IsText s := by
  refine List.all_eq_true.mpr fun d hd => ?_
  rcases h.mem_iff hd with hd | rfl
  · rw [isTextChar, hd, Bool.or_true, Bool.true_or]
  · decide

theorem isText_of_numeral {s : List Char} {x : Binary64} (h : Numeral s x) : IsText s := by
  cases h with
  | unsigned hs => exact isText_of_decimals hs
  | plus hs => exact IsText.append (show IsText ['+'] by decide) (isText_of_decimals hs)
  | minus hs => exact IsText.append (show IsText ['-'] by decide) (isText_of_decimals hs)

theorem isText_text {c : Condition} (h : c.WellFormed) : IsText c.text.toList := by
  cases c with
  | never => decide
  | level comparison value =>
    simp only [text, levelText, String.toList_append, String.toList_ofList]
    exact ((show IsText "lv".toList by decide).append
      (isText_sign (comparison_sign_mem comparison))).append
        (isText_of_isDigits (isDigits_digits _))
  | halfLevel comparison value half =>
    simp only [text, levelText, String.toList_append, String.toList_ofList,
      String.toList_singleton]
    refine IsText.append (((show IsText "lv".toList by decide).append
      (isText_sign (halfComparison_sign_mem comparison))).append
        (isText_of_isDigits (isDigits_digits _))) ?_
    cases half <;> decide
  | rating comparison value =>
    simp only [text, String.toList_append, String.toList_ofList]
    exact ((show IsText "rat".toList by decide).append
      (isText_sign (comparison_sign_mem comparison))).append
        (isText_of_numeral (numeral_positionalText h))
  | sranLevel comparison value =>
    have all : ∀ rank : Fin 21, IsText (SranLevel.codeText ⟨rank⟩) := by decide +kernel
    simp only [text, SranLevel.code, String.toList_append, String.toList_ofList]
    exact ((show IsText "srlv".toList by decide).append
      (isText_sign (comparison_sign_mem comparison))).append (all value.rank)
  | difficulty comparison values =>
    simp only [text, String.toList_append, String.toList_ofList]
    refine ((show IsText "diff".toList by decide).append
      (isText_sign (equality_sign_mem comparison))).append (List.all_eq_true.mpr fun d hd => ?_)
    obtain ⟨value, -, rfl⟩ := List.mem_map.mp hd
    cases value <;> decide
  | flag clause =>
    have hname : ∀ flag : Flag, IsText flag.name.toList := by
      intro flag
      cases flag <;> decide
    have hmark : ∀ polarity : Polarity, IsText polarity.mark.toList := by
      intro polarity
      cases polarity <;> decide
    simp only [text, FlagClause.text, String.toList_append]
    exact (hmark _).append (hname _)
  | folder comparison value =>
    simp only [text, Folder.text, String.toList_append, String.toList_ofList]
    refine ((show IsText "ver".toList by decide).append
      (isText_sign (equality_sign_mem comparison))).append ?_
    cases value with
    | consumer => decide
    | bemani => decide
    | version n => exact isText_of_isDigits (isDigits_digits n)

theorem isBlank_of_isTextChar {d : Char} (h : isTextChar d = true) : isBlank d = false := by
  rcases isTextChar_cases h with h | h | h
  · exact isBlank_of_isSmallLetter h
  · exact isBlank_of_isDecimalDigit (isDecimalDigit_of_isDigit h)
  · have all : ∀ d ∈ textMarks, isBlank d = false := forall_mem_of_all (by decide)
    exact all d h

theorem isPlain_of_isText {s : List Char} (h : IsText s) : IsPlain s := by
  intro d hd
  rcases isTextChar_cases (List.all_eq_true.mp h d hd) with h | h | h
  · obtain ⟨_, hmem, hlow, hhigh⟩ := CharSet.contains_iff.mp (contains_of_isSmallLetter h)
    rw [List.mem_singleton.mp hmem] at hlow hhigh
    have hlow : 0x61 ≤ d.toNat := hlow
    have hhigh : d.toNat ≤ 0x7A := hhigh
    rw [isUpper_eq_false_iff]
    omega
  · exact forall_isDigit (p := fun d => d.toNat < 0x80 ∧ d.isUpper = false) (by decide) h
  · have all : ∀ d ∈ textMarks, d.toNat < 0x80 ∧ d.isUpper = false :=
      forall_mem_of_all (by decide)
    exact all d h

/-- Conditions are written in lower case. -/
theorem lowerCase_text {c : Condition} (h : c.WellFormed) :
    lowerCase c.text.toList = c.text.toList :=
  lowerCase_of_isPlain (isPlain_of_isText (isText_text h))

theorem isBlank_of_mem_text {c : Condition} (h : c.WellFormed) {d : Char}
    (hd : d ∈ c.text.toList) : isBlank d = false :=
  isBlank_of_isTextChar (List.all_eq_true.mp (isText_text h) d hd)

theorem trimString_text {c : Condition} (h : c.WellFormed) : trimString c.text = c.text := by
  have htrim := trim_of_not_blank fun _ hd => isBlank_of_mem_text h hd
  rw [trimString, htrim, String.ofList_toList]

/-! ## The parts of a text -/

theorem shortNumber_digits {n : Nat} (h : n < 100) : ShortNumber (digits n) n :=
  shortNumber?_eq_some.mp (shortNumber?_digits n h)

theorem levelSpelling_digits {value : UInt8} (h : lowestLevel ≤ value ∧ value ≤ highestLevel) :
    LevelSpelling (digits value.toNat) value := by
  have hhigh : value.toNat ≤ 50 := UInt8.le_iff_toNat_le.mp h.2
  exact ⟨shortNumber_digits (by omega), h.1, h.2⟩

/-- A well-formed condition that is not split is written as a clause for it,
without blanks. -/
theorem exists_parts_text {c : Condition} (h : c.WellFormed) (hsplit : ¬ c.IsSplit) :
    ∃ parts, Parts parts c ∧ c.text.toList = parts.flatten := by
  cases c with
  | never => exact ⟨["diff".toList, ['=']], .never (by decide), by decide⟩
  | level comparison value =>
    exact ⟨_, .level comparison (levelSpelling_digits h), by simp [text, levelText]⟩
  | halfLevel comparison value half =>
    exact ⟨_, .halfLevel comparison ⟨_, levelSpelling_digits h, rfl⟩, by simp [text, levelText]⟩
  | rating comparison value =>
    have hnumeral := numeral_positionalText h
    have hspelling : RatingSpelling value.positionalText value := by
      refine ⟨hnumeral, h, fun hdigits => ?_⟩
      have hpos : 0 < value.positionalText.length := by
        obtain ⟨d, hd, -⟩ := hnumeral.exists_digit
        exact List.length_pos_of_mem hd
      by_cases hodd : value.positionalText.length % 2 = 1
      · have hshort : ¬ 3 ≤ value.positionalText.length := fun hlong =>
          hsplit ⟨hdigits, hodd, hlong⟩
        omega
      · omega
    exact ⟨_, .rating comparison hspelling, by simp [text]⟩
  | sranLevel comparison value =>
    have hspelling := SranLevel.ofSpelling?_eq_some_iff.mp (SranLevel.ofSpelling?_codeText value)
    exact ⟨_, .sranLevel comparison hspelling, by simp [text, SranLevel.code]⟩
  | difficulty comparison values =>
    have hspelling : DifficultySpelling (values.map Difficulty.letter) values :=
      ⟨values, h.1, rfl, (distinct_of_nodup h.2).symm⟩
    exact ⟨_, .difficulty comparison hspelling, by simp [text]⟩
  | flag clause =>
    have hspelling : clause.Spelling clause.text.toList := by
      rw [← FlagClause.ofToken?_eq_some_iff, String.ofList_toList]
      exact FlagClause.ofToken?_text clause
    exact ⟨_, .flag hspelling, by simp [text]⟩
  | folder comparison value =>
    have hspelling : value.Spelling value.tag := by
      cases value with
      | consumer => exact .consumer
      | bemani => exact .bemani
      | version n =>
        have hhigh : n ≤ 28 := h.2
        exact .version (shortNumber_digits (by omega)) h.1 h.2
    exact ⟨["ver".toList, comparison.sign.toList, value.tag],
      .folder comparison (by decide) hspelling, by simp [text, Folder.text]⟩

theorem parse_text_of_not_isSplit {c : Condition} (h : c.WellFormed) (hsplit : ¬ c.IsSplit) :
    parse c.text = .ok c := by
  obtain ⟨parts, hparts, htext⟩ := exists_parts_text h hsplit
  refine parse_of_parts hparts ?_
  rw [lowerCase_text h, htext]
  exact .flatten parts

/-! ## Ratings that are split -/

theorem scan_field_append {field sign s : List Char} (hfield : IsWord field)
    (hsign : sign ∈ signs) (hne : s ≠ []) (hs : ∀ d ∈ s.head?, d ≠ '=') :
    scan (field ++ sign ++ s) = field :: sign :: scan s := by
  cases s with
  | nil => exact absurd rfl hne
  | cons d s =>
    have hends := endsBefore_sign hsign (hs d rfl) s []
    rw [List.append_nil] at hends
    rw [List.append_assoc,
      scan_token_append hfield.ne_nil (endsBefore_word_sign hfield hsign (d :: s)),
      scan_token_append (isLexeme_sign hsign).ne_nil hends]

/-- An odd number of digits is cut before the last one. -/
theorem scan_odd_digits {s : List Char} (hs : IsDigits s) (hodd : s.length % 2 = 1)
    (hlong : 3 ≤ s.length) : ∃ t d, scan s = [t, [d]] := by
  obtain ⟨t, d, rfl⟩ := List.eq_nil_or_concat s |>.resolve_left (by
    rintro rfl
    exact absurd hlong (by decide))
  rw [List.concat_eq_append] at *
  rw [List.length_append, List.length_singleton] at hodd hlong
  have hlength : length (t ++ [d]) = t.length := by
    rw [length_digits (by simp) (isDecimalDigit_of_isDigits hs), List.length_append,
      List.length_singleton, if_neg (by omega)]
    omega
  have ht : t ≠ [] := by
    rintro rfl
    exact absurd hlong (by decide)
  have hlast : IsLexeme [d] := by
    apply (isLexeme_digits_iff (isDecimalDigit_of_isDigits _)).mpr (.inl rfl)
    intro e he
    exact hs e (List.mem_append_right _ he)
  refine ⟨t, d, ?_⟩
  rw [scan_token_append ht hlength]
  have hd := scan_of_spaced (Spaced.flatten [[d]]) (by simpa using hlast)
    (List.isChain_singleton _)
  rw [← hd]
  rfl

theorem Parts.length_le {parts : List (List Char)} {c : Condition} (h : Parts parts c) :
    parts.length ≤ 3 := by
  cases h <;> simp

theorem parse_text_of_isSplit {c : Condition} (h : c.WellFormed) (hsplit : c.IsSplit) :
    parse c.text = .error (.invalidCondition c.text (clauseTokens c.text)) := by
  cases hparse : parse c.text with
  | ok c' =>
    -- the text has four tokens, and no condition has so many parts
    have hlength := (parts_of_parse hparse).length_le
    rw [lowerCase_text h] at hlength
    cases c with
    | rating comparison value =>
      obtain ⟨hdigits, hodd, hlong⟩ := hsplit
      obtain ⟨t, d, hscan⟩ := scan_odd_digits hdigits hodd hlong
      simp only [text, String.toList_append, String.toList_ofList] at hlength
      rw [scan_field_append (by decide) (comparison_sign_mem comparison), hscan] at hlength
      · exact absurd (show 4 ≤ 3 from hlength) (by decide)
      · intro hnil
        rw [hnil] at hlong
        exact absurd hlong (by decide)
      · intro e he
        exact ne_equals_of_isDigit (hdigits e (List.mem_of_mem_head? he))
    | _ => exact hsplit.elim
  | error e =>
    rw [← hparse]
    unfold parse at hparse ⊢
    dsimp only at hparse ⊢
    split at hparse
    · exact absurd hparse (by simp)
    · rw [trimString_text h]

end Condition

end ChartCatalog
