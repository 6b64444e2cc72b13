import ChartCatalog.Condition.Grammar
import ChartCatalog.Proofs.Field.Spelling
import ChartCatalog.Proofs.Number.Decimals
import ChartCatalog.Proofs.Token.Lexeme
import ChartCatalog.Proofs.Traversal

/-!
# Operands

What may stand after the sign of a clause, and the value it denotes: a level, a
level with a letter, a rating, a sran level, letters of difficulties, a folder.
Every operand is one token that does not begin with `=` (`IsOperand`), so that a
clause may be written without blanks. For ratings this leaves out texts that are
numerals all the same: digits without a sign and a point are a token only if
there is one or an even number of them.
-/

namespace ChartCatalog

open Number Text Token

/-- A token that can stand directly after a sign. -/
structure IsOperand (s : List Char) : Prop where
  isLexeme : IsLexeme s
  head_ne : ∀ c ∈ s.head?, c ≠ '='

theorem isDecimalDigit_of_isDigits {s : List Char} (h : IsDigits s) :
    ∀ c ∈ s, isDecimalDigit c = true := by
  intro c hc
  exact isDecimalDigit_of_isDigit (h c hc)

theorem ne_equals_of_isDigit {c : Char} (h : c.isDigit = true) : c ≠ '=' := by
  rintro rfl
  exact absurd h (by decide)

theorem isOperand_word {s : List Char} (h : IsWord s) : IsOperand s := by
  refine ⟨isLexeme_word h, fun c hc => ?_⟩
  have hletter := h.letters c (List.mem_of_mem_head? hc)
  rintro rfl
  exact absurd hletter (by decide)

/-! ## Levels -/

theorem ShortNumber.isOperand {s : List Char} {n : Nat} (h : ShortNumber s n) : IsOperand s := by
  refine ⟨(isLexeme_digits_iff (isDecimalDigit_of_isDigits h.digits)).mpr ?_, fun c hc => ?_⟩
  · have hpos := List.length_pos_iff.mpr h.ne_nil
    have hle := h.length_le
    by_cases h1 : s.length = 1
    · exact .inl h1
    · exact .inr ⟨h.ne_nil, by omega⟩
  · exact ne_equals_of_isDigit (h.digits c (List.mem_of_mem_head? hc))

/-- A level in one or two digits. -/
structure LevelSpelling (s : List Char) (level : UInt8) : Prop where
  number : ShortNumber s level.toNat
  lowest_le : lowestLevel ≤ level
  le_highest : level ≤ highestLevel

theorem levelOf?_eq_some_iff {s : List Char} {level : UInt8} :
    Condition.levelOf? s = some level ↔ LevelSpelling s level := by
  unfold Condition.levelOf?
  rw [Option.bind_eq_some_iff]
  constructor
  · rintro ⟨n, hn, hlevel⟩
    split at hlevel
    · rename_i hrange
      cases hlevel
      have hhigh : n ≤ 50 := hrange.2
      have htoNat : (UInt8.ofNat n).toNat = n := UInt8.toNat_ofNat_of_lt' (by
        show n < 256
        omega)
      refine ⟨?_, ?_, ?_⟩
      · rw [htoNat]
        exact shortNumber?_eq_some.mp hn
      · rw [UInt8.le_iff_toNat_le, htoNat]
        exact hrange.1
      · rw [UInt8.le_iff_toNat_le, htoNat]
        exact hrange.2
    · exact absurd hlevel (by simp)
  · rintro ⟨hnumber, hlow, hhigh⟩
    rw [UInt8.le_iff_toNat_le] at hlow hhigh
    refine ⟨level.toNat, shortNumber?_eq_some.mpr hnumber, ?_⟩
    rw [if_pos ⟨hlow, hhigh⟩, UInt8.ofNat_toNat]

theorem LevelSpelling.isOperand {s : List Char} {level : UInt8} (h : LevelSpelling s level) :
    IsOperand s :=
  h.number.isOperand

/-- A level and the letter of a part of it, with nothing between them. -/
def HalfLevelSpelling (s : List Char) (level : UInt8) (half : HalfLevel) : Prop :=
  ∃ number, LevelSpelling number level ∧ s = number ++ [half.letter]

theorem ofLetter?_half_iff {c : Char} {half : HalfLevel} :
    HalfLevel.ofLetter? c = some half ↔ c = half.letter := by
  constructor
  · intro h
    unfold HalfLevel.ofLetter? at h
    split at h <;> cases h <;> rfl
  · rintro rfl
    exact HalfLevel.ofLetter?_letter half

theorem halfLevelOf?_eq_some_iff {s : List Char} {level : UInt8} {half : HalfLevel} :
    Condition.halfLevelOf? s = some (level, half) ↔ HalfLevelSpelling s level half := by
  unfold Condition.halfLevelOf?
  constructor
  · intro h
    obtain ⟨half', hhalf, h⟩ := Option.bind_eq_some_iff.mp h
    obtain ⟨level', hlevel, h⟩ := Option.bind_eq_some_iff.mp h
    obtain ⟨rfl, rfl⟩ := Prod.mk.inj (Option.some.inj h)
    obtain ⟨c, hc, hletter⟩ := Option.bind_eq_some_iff.mp hhalf
    obtain ⟨t, rfl⟩ := List.getLast?_eq_some_iff.mp hc
    rw [List.dropLast_concat] at hlevel
    rw [ofLetter?_half_iff.mp hletter]
    exact ⟨t, levelOf?_eq_some_iff.mp hlevel, rfl⟩
  · rintro ⟨number, hnumber, rfl⟩
    rw [List.getLast?_concat, List.dropLast_concat, levelOf?_eq_some_iff.mpr hnumber]
    simp

theorem HalfLevelSpelling.isOperand {s : List Char} {level : UInt8} {half : HalfLevel}
    (h : HalfLevelSpelling s level half) : IsOperand s := by
  obtain ⟨number, hnumber, rfl⟩ := h
  have hpos := List.length_pos_iff.mpr hnumber.number.ne_nil
  have hle := hnumber.number.length_le
  refine ⟨isLexeme_halfLevel (isDecimalDigit_of_isDigits hnumber.number.digits) (by omega) ?_, ?_⟩
  · cases half <;> decide
  · intro c hc
    rw [List.head?_append_of_ne_nil _ hnumber.number.ne_nil] at hc
    exact hnumber.isOperand.head_ne c hc

/-! ## Ratings -/

/-- A numeral of a finite number; without a sign and a point it has one digit or
an even number of them. -/
structure RatingSpelling (s : List Char) (rating : Binary64) : Prop where
  numeral : Numeral s rating
  isFinite : rating.isFinite = true
  length_of_isDigits : IsDigits s → s.length = 1 ∨ s.length % 2 = 0

theorem isNumberChar_of_isDigit {c : Char} (h : c.isDigit = true) : isNumberChar c = true :=
  isNumberChar_iff.mpr (.inl (isDecimalDigit_of_isDigit h))

theorem Number.Decimals.isNumberChar {s w f : List Char} (h : Decimals s w f) :
    ∀ c ∈ s, isNumberChar c = true := by
  intro c hc
  rcases h.mem_iff hc with hc | rfl
  · exact isNumberChar_of_isDigit hc
  · decide

theorem ratingOf?_eq_some_iff {s : List Char} {rating : Binary64} :
    Condition.ratingOf? s = some rating ↔
      Binary64.ofText? s = some rating ∧ rating.isFinite = true :=
  Option.filter_eq_some_iff

theorem RatingSpelling.isOperand {s : List Char} {rating : Binary64}
    (h : RatingSpelling s rating) : IsOperand s := by
  cases h.numeral with
  | plus hs =>
    refine ⟨isLexeme_number (by decide) hs.isNumberChar, ?_⟩
    rintro c ⟨⟩
    decide
  | minus hs =>
    refine ⟨isLexeme_number (by decide) hs.isNumberChar, ?_⟩
    rintro c ⟨⟩
    decide
  | unsigned hs =>
    refine ⟨?_, fun c hc => ?_⟩
    · cases hs with
      | whole hne hw =>
        apply (isLexeme_digits_iff (isDecimalDigit_of_isDigits hw)).mpr
        exact (h.length_of_isDigits hw).imp_right fun heven => ⟨hne, heven⟩
      | point hne hw hf =>
        exact isLexeme_decimal hne (isDecimalDigit_of_isDigits hw) (isDecimalDigit_of_isDigits hf)
      | leading hne hf =>
        exact isLexeme_number (by decide) fun c hc => isNumberChar_of_isDigit (hf c hc)
    · rcases hs.mem_iff (List.mem_of_mem_head? hc) with hc | rfl
      · exact ne_equals_of_isDigit hc
      · decide

theorem RatingSpelling.ratingOf?_eq {s : List Char} {rating : Binary64}
    (h : RatingSpelling s rating) : Condition.ratingOf? s = some rating :=
  ratingOf?_eq_some_iff.mpr ⟨h.numeral.ofText?_eq, h.isFinite⟩

theorem not_isInert_of_isDigit {c : Char} (h : c.isDigit = true) : ¬ IsInert c := by
  intro hinert
  have hlength := length_digits (List.cons_ne_nil c [])
    (isDecimalDigit_of_isDigits (fun d hd => by rwa [List.mem_singleton.mp hd]))
  rw [hinert.length_eq, List.length_singleton, if_pos rfl] at hlength
  exact absurd hlength (by decide)

/-- A token that is read as a rating is a numeral of the three forms: it cannot
have an exponent, since no token has an `e` and then a digit. -/
theorem ratingSpelling_of_token {s t : List Char} {rating : Binary64} (hs : s ∈ scan t)
    (h : Condition.ratingOf? s = some rating) : RatingSpelling s rating := by
  obtain ⟨htext, hfinite⟩ := ratingOf?_eq_some_iff.mp h
  rcases mem_scan hs with hlexeme | ⟨-, hinert⟩
  · rcases numeral_of_ofText? htext hfinite with hnumeral | ⟨⟨e, he, hletter⟩, d, hd, hlast⟩
    · refine ⟨hnumeral, hfinite, fun hdigits => ?_⟩
      exact ((isLexeme_digits_iff (isDecimalDigit_of_isDigits hdigits)).mp hlexeme).imp_right (·.2)
    · have hchars := hlexeme.chars_of_getLast hd (isDecimalDigit_of_isDigit hlast) e he
      rcases hletter with rfl | rfl <;> exact absurd hchars (by decide)
  · -- a run without a shape has no digits
    have hdigit : ∃ c ∈ s, c.isDigit = true := by
      rcases numeral_of_ofText? htext hfinite with hnumeral | ⟨-, d, hd, hlast⟩
      · exact hnumeral.exists_digit
      · exact ⟨d, List.mem_of_getLast? hd, hlast⟩
    obtain ⟨c, hc, hd⟩ := hdigit
    exact absurd (hinert c hc) (not_isInert_of_isDigit hd)

/-! ## Sran levels -/

theorem SranLevel.isOperand_of_mem_spellings {s : List Char} {level : SranLevel}
    (h : s ∈ level.spellings) : IsOperand s := by
  have all : ∀ rank : Fin 21, ∀ s ∈ spellings ⟨rank⟩,
      (s ≠ [] ∧ length s = s.length) ∧ s.head? ≠ some '=' := by decide +kernel
  obtain ⟨⟨hne, hlength⟩, hhead⟩ := all level.rank s h
  refine ⟨⟨hne, hlength⟩, fun c hc => ?_⟩
  rintro rfl
  exact hhead hc

/-! ## Difficulties -/

/-- Letters of difficulties, at least one, and the difficulties in order of first
appearance. -/
def DifficultySpelling (s : List Char) (values : List Difficulty) : Prop :=
  ∃ letters : List Difficulty,
    letters ≠ [] ∧ s = letters.map Difficulty.letter ∧ values = distinct letters

theorem ofLetter?_difficulty_iff {c : Char} {d : Difficulty} :
    Difficulty.ofLetter? c = some d ↔ c = d.letter := by
  constructor
  · intro h
    unfold Difficulty.ofLetter? at h
    split at h <;> cases h <;> rfl
  · rintro rfl
    exact Difficulty.ofLetter?_letter d

theorem mapM_ofLetter?_eq_some_iff {s : List Char} {letters : List Difficulty} :
    s.mapM Difficulty.ofLetter? = some letters ↔ s = letters.map Difficulty.letter := by
  rw [mapM_eq_some_iff_forall₂, ← List.forall₂_eq_eq_eq, List.forall₂_map_right_iff]
  simp only [ofLetter?_difficulty_iff]

theorem difficultiesOf?_eq_some_iff {s : List Char} {values : List Difficulty} (hne : s ≠ []) :
    Condition.difficultiesOf? s = some values ↔ DifficultySpelling s values := by
  unfold Condition.difficultiesOf?
  rw [Option.map_eq_some_iff]
  constructor
  · rintro ⟨letters, hletters, rfl⟩
    have hs := mapM_ofLetter?_eq_some_iff.mp hletters
    refine ⟨letters, ?_, hs, rfl⟩
    rintro rfl
    exact hne hs
  · rintro ⟨letters, -, hs, rfl⟩
    exact ⟨letters, mapM_ofLetter?_eq_some_iff.mpr hs, rfl⟩

theorem DifficultySpelling.isWord {s : List Char} {values : List Difficulty}
    (h : DifficultySpelling s values) : IsWord s := by
  obtain ⟨letters, hne, rfl, -⟩ := h
  have hletter : ∀ d : Difficulty, isSmallLetter d.letter = true ∧ d.letter ≠ 'c' := by
    intro d
    cases d <;> decide
  have hall : ∀ c ∈ letters.map Difficulty.letter, isSmallLetter c = true ∧ c ≠ 'c' := by
    intro c hc
    obtain ⟨d, -, rfl⟩ := List.mem_map.mp hc
    exact hletter d
  exact ⟨fun c hc => (hall c (List.mem_of_mem_head? hc)).2, by simpa using hne,
    fun c hc => (hall c hc).1⟩

/-! ## Flags and folders -/

theorem Flag.Spelling.isWord {s : List Char} {flag : Flag} (h : flag.Spelling s) : IsWord s := by
  cases h with
  | name => cases flag <;> decide
  | soflan => decide

theorem FlagClause.Spelling.isLexeme {s : List Char} {clause : FlagClause}
    (h : clause.Spelling s) : IsLexeme s := by
  cases h with
  | require h => exact isLexeme_word h.isWord
  | allow h => exact isLexeme_mark_word (by decide) h.isWord.ne_nil h.isWord.letters
  | forbid hmark h =>
    refine isLexeme_mark_word ?_ h.isWord.ne_nil h.isWord.letters
    simp only [List.mem_cons, List.not_mem_nil, or_false] at hmark
    rcases hmark with rfl | rfl <;> decide

theorem Folder.Spelling.isOperand {s : List Char} {folder : Folder} (h : folder.Spelling s) :
    IsOperand s := by
  cases h with
  | consumer => exact ⟨isLexeme_cs, by simp⟩
  | bemani => exact isOperand_word (by decide)
  | version h => exact h.isOperand

end ChartCatalog
