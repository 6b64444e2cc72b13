import ChartCatalog.Proofs.Token.Scan

/-!
# Lexemes

Which texts are taken as one token. Signs, words, words with a mark, numbers of
every form, half levels and `cs` are lexemes; a run of digits is one exactly if
its length is one or even, since digits without a point are taken in pairs
(`isLexeme_digits_iff`). A lexeme that ends in a digit holds no letters but those
of `cs` (`IsLexeme.chars_of_getLast`), so no exponent is part of it.
-/

namespace ChartCatalog.Token

open Text

/-! ## The shape that decides -/

theorem firstOf_of_prior {prior : List Shape} (shape : Shape) (later : List Shape)
    {s : List Char} (hprior : ∀ other ∈ prior, other s = 0) (h : shape s ≠ 0) :
    Shape.firstOf (prior ++ shape :: later) s = shape s := by
  induction prior with
  | nil => rw [List.nil_append, Shape.firstOf, if_neg h]
  | cons other prior ih =>
    rw [List.cons_append, Shape.firstOf, if_pos (hprior other List.mem_cons_self)]
    exact ih fun other ho => hprior other (List.mem_cons_of_mem _ ho)

/-- What a shape takes as a whole is a lexeme, if the shapes before it take
nothing. -/
theorem isLexeme_of_shape {prior later : List Shape} {shape : Shape} {s : List Char}
    (hprior : ∀ other ∈ prior, other s = 0) (hshapes : prior ++ shape :: later = shapes)
    (hne : s ≠ []) (hall : shape s = s.length) : IsLexeme s := by
  refine ⟨hne, ?_⟩
  have hpos : shape s ≠ 0 := by
    rw [hall]
    exact fun h0 => hne (List.length_eq_zero_iff.mp h0)
  rw [length_eq_firstOf, ← hshapes, firstOf_of_prior shape later hprior hpos]
  exact hall

theorem exists_shape_of_firstOf {s : List Char} {l : List Shape} (h : Shape.firstOf l s ≠ 0) :
    ∃ shape ∈ l, shape s = Shape.firstOf l s := by
  induction l with
  | nil => exact absurd rfl h
  | cons shape l ih =>
    rw [Shape.firstOf] at h ⊢
    split at h
    · rw [if_pos ‹_›]
      obtain ⟨other, ho, heq⟩ := ih h
      exact ⟨other, List.mem_cons_of_mem _ ho, heq⟩
    · rw [if_neg ‹_›]
      exact ⟨shape, List.mem_cons_self, rfl⟩

/-- Some shape takes all of a lexeme. -/
theorem IsLexeme.exists_shape {token : List Char} (h : IsLexeme token) :
    ∃ shape ∈ shapes, shape token = token.length := by
  have hlength := h.length_eq
  rw [length_eq_firstOf] at hlength
  have hpos : Shape.firstOf shapes token ≠ 0 := by
    rw [hlength]
    exact fun h0 => h.ne_nil (List.length_eq_zero_iff.mp h0)
  obtain ⟨shape, hmem, heq⟩ := exists_shape_of_firstOf hpos
  exact ⟨shape, hmem, heq.trans hlength⟩

/-! ## Shapes that do not begin with a character -/

section FirstCharacter

variable {c : Char}

theorem fixed_cons_eq_zero {p : Char → Bool} {classes : List (Char → Bool)} (hc : p c = false)
    (s : List Char) : fixed (p :: classes) (c :: s) = 0 := by
  simp [fixed, beginsWith, hc]

theorem longSign_cons (hc : isLongSignStart c = false) (s : List Char) : longSign (c :: s) = 0 := by
  rw [longSign_eq_fixed]
  exact fixed_cons_eq_zero hc s

theorem shortSign_cons (hc : isShortSign c = false) (s : List Char) : shortSign (c :: s) = 0 := by
  rw [shortSign_eq_fixed]
  exact fixed_cons_eq_zero hc s

theorem sublevelCode_cons (hzero : c ≠ '0') (hc : isMarkedDigit c = false) (s : List Char) :
    sublevelCode (c :: s) = 0 := by
  rw [sublevelCode_eq_marked, marked_of_not_mark (by simp [hzero]), markedNumber_eq_fixed]
  exact fixed_cons_eq_zero hc s

theorem halfLevel_cons (hc : isDecimalDigit c = false) (s : List Char) :
    halfLevel (c :: s) = 0 := by
  simp only [halfLevel_eq_firstOf, Shape.firstOf, fixed_cons_eq_zero hc, if_true]

theorem decimal_cons (hc : isDecimalDigit c = false) (s : List Char) : decimal (c :: s) = 0 := by
  simp only [decimal, List.takeWhile_cons, hc, List.dropWhile_cons]
  split <;> rfl

theorem pairs_cons (hc : isDecimalDigit c = false) (hcs : c ≠ 'c') (s : List Char) :
    pairs (c :: s) = 0 := by
  cases s <;> simp [pairs, hc, hcs]

theorem word_cons (hmark : isWordMark c = false) (hc : isSmallLetter c = false) (s : List Char) :
    word (c :: s) = 0 := by
  rw [word_eq_marked, marked_of_not_mark hmark, letters, List.takeWhile_cons, hc]
  rfl

end FirstCharacter

/-! ## Signs -/

/-- The six signs. -/
def signs : List (List Char) := [['='], ['!', '='], ['>'], ['>', '='], ['<'], ['<', '=']]

theorem isLexeme_sign {sign : List Char} (h : sign ∈ signs) : IsLexeme sign := by
  have all : ∀ sign ∈ signs, sign ≠ [] ∧ length sign = sign.length := by decide
  exact ⟨(all sign h).1, (all sign h).2⟩

/-- A sign does not begin with a letter. -/
theorem head_sign {sign : List Char} (h : sign ∈ signs) :
    ∃ c s, sign = c :: s ∧ isSmallLetter c = false := by
  have all : ∀ sign ∈ signs, sign ≠ [] ∧ sign.any isSmallLetter = false := by decide
  obtain ⟨hne, hletters⟩ := all sign h
  cases sign with
  | nil => exact absurd rfl hne
  | cons c s =>
    rw [List.any_cons, Bool.or_eq_false_iff] at hletters
    exact ⟨c, s, rfl, hletters.1⟩

/-- A sign ends before anything but `=`. -/
theorem endsBefore_sign {sign : List Char} (h : sign ∈ signs) {c : Char} (hc : c ≠ '=')
    (s : List Char) : EndsBefore sign (c :: s) := by
  intro t
  rw [length_eq_firstOf]
  simp only [signs, List.mem_cons, List.not_mem_nil, or_false] at h
  rcases h with rfl | rfl | rfl | rfl | rfl | rfl <;>
    simp [shapes, Shape.firstOf, longSign, shortSign, hc]

/-! ## Words -/

/-- A word begins with a small letter other than `c`, which might be the start of
`cs`, and has nothing but small letters. -/
structure IsWord (token : List Char) : Prop where
  head_ne : ∀ c ∈ token.head?, c ≠ 'c'
  ne_nil : token ≠ []
  letters : ∀ c ∈ token, isSmallLetter c = true

theorem isWord_iff_all {token : List Char} :
    IsWord token ↔ token.head? ≠ some 'c' ∧ token ≠ [] ∧ token.all isSmallLetter = true := by
  constructor
  · intro h
    exact ⟨fun hc => h.head_ne 'c' hc rfl, h.ne_nil, List.all_eq_true.mpr h.letters⟩
  · rintro ⟨hhead, hne, hletters⟩
    refine ⟨?_, hne, List.all_eq_true.mp hletters⟩
    rintro c hc rfl
    exact hhead hc

instance (token : List Char) : Decidable (IsWord token) :=
  decidable_of_iff _ isWord_iff_all.symm

theorem letters_append {w s : List Char} (hw : ∀ c ∈ w, isSmallLetter c = true)
    (hs : ∀ c ∈ s.head?, isSmallLetter c = false) : letters (w ++ s) = w.length := by
  rw [letters, List.takeWhile_append_of_pos hw]
  cases s with
  | nil => simp
  | cons c s => simp [hs c rfl]

/-- A word ends where the letters end. -/
theorem length_word {w s : List Char} (hw : IsWord w)
    (hs : ∀ c ∈ s.head?, isSmallLetter c = false) : length (w ++ s) = w.length := by
  have hletters := letters_append hw.letters hs
  cases w with
  | nil => exact absurd rfl hw.ne_nil
  | cons c w =>
    have hletter := hw.letters c List.mem_cons_self
    have hmark : isWordMark c = false := eq_false_of_mem mem_of_isWordMark (by decide) hletter
    have hword : word (c :: w ++ s) = (c :: w).length := by
      rw [word_eq_marked, List.cons_append, marked_of_not_mark hmark, ← List.cons_append, hletters]
    have hdigit := isDecimalDigit_of_isSmallLetter hletter
    have hprior : ∀ other ∈ [longSign, shortSign, sublevelCode, halfLevel, decimal, pairs],
        other (c :: w ++ s) = 0 := by
      simp only [List.forall_mem_cons, List.cons_append]
      refine ⟨longSign_cons ?_ _, shortSign_cons ?_ _, sublevelCode_cons ?_ ?_ _,
        halfLevel_cons hdigit _, decimal_cons hdigit _,
        pairs_cons hdigit (hw.head_ne c rfl) _, List.forall_mem_nil _⟩
      · exact eq_false_of_mem mem_of_isLongSignStart (by decide) hletter
      · exact eq_false_of_mem mem_of_isShortSign (by decide) hletter
      · rintro rfl
        exact absurd hletter (by decide)
      · exact eq_false_of_mem mem_of_isMarkedDigit (by decide) hletter
    rw [length_eq_firstOf, ← hword]
    exact firstOf_of_prior word [number] hprior (by rw [hword]; exact Nat.succ_ne_zero _)

theorem isLexeme_word {w : List Char} (hw : IsWord w) : IsLexeme w := by
  have h := length_word (s := []) hw (by simp)
  rw [List.append_nil] at h
  exact ⟨hw.ne_nil, h⟩

theorem endsBefore_word_sign {w sign : List Char} (hw : IsWord w) (hsign : sign ∈ signs) :
    EndsBefore w sign := by
  intro s
  obtain ⟨c, t, rfl, hc⟩ := head_sign hsign
  exact length_word hw (by simpa using hc)

/-- The other words cannot be marked as signs are: a letter follows the mark. -/
theorem isLexeme_mark_word {mark : Char} {w : List Char} (hmark : isWordMark mark = true)
    (hne : w ≠ []) (hw : ∀ c ∈ w, isSmallLetter c = true) : IsLexeme (mark :: w) := by
  have hletters : letters w = w.length := by
    have h := letters_append (s := []) hw (by simp)
    rwa [List.append_nil] at h
  have hlength : w.length ≠ 0 := fun h0 => hne (List.length_eq_zero_iff.mp h0)
  have hword : word (mark :: w) = (mark :: w).length := by
    rw [word_eq_marked, marked_of_mark hmark, hletters, if_neg hlength, List.length_cons]
  have hlong : longSign (mark :: w) = 0 := by
    cases w with
    | nil => exact absurd rfl hne
    | cons c w =>
      have hc : c ≠ '=' := by
        rintro rfl
        exact absurd (hw '=' List.mem_cons_self) (by decide)
      simp [longSign, hc]
  have hprior : ∀ other ∈ [longSign, shortSign, sublevelCode, halfLevel, decimal, pairs],
      other (mark :: w) = 0 := by
    have hclasses : ∀ c ∈ ['+', '!', '-'], isShortSign c = false ∧ c ≠ '0' ∧
        isMarkedDigit c = false ∧ isDecimalDigit c = false ∧ c ≠ 'c' :=
      forall_mem_of_all (by decide)
    obtain ⟨hshort, hzero, hnumber, hdigit, hcs⟩ := hclasses mark (mem_of_isWordMark hmark)
    simp only [List.forall_mem_cons]
    exact ⟨hlong, shortSign_cons hshort w, sublevelCode_cons hzero hnumber w,
      halfLevel_cons hdigit w, decimal_cons hdigit w, pairs_cons hdigit hcs w,
      List.forall_mem_nil _⟩
  exact isLexeme_of_shape hprior rfl (List.cons_ne_nil _ _) hword

/-! ## Texts without marks and letters -/

section Numbers

variable {s : List Char}

theorem markedNumber_of_unmarked (hs : ∀ c ∈ s, isSublevelMark c = false) :
    markedNumber s = 0 := by
  match s with
  | [] => rfl
  | [c] => rfl
  | c :: d :: t => simp [markedNumber, hs d (by simp)]

theorem sublevelCode_of_unmarked (hs : ∀ c ∈ s, isSublevelMark c = false) :
    sublevelCode s = 0 := by
  rw [sublevelCode_eq_marked]
  cases s with
  | nil => rfl
  | cons c s =>
    have hrest := markedNumber_of_unmarked fun d hd => hs d (List.mem_cons_of_mem _ hd)
    rw [marked, hrest, markedNumber_of_unmarked hs]
    split <;> rfl

theorem halfLevel_of_unmarked (hs : ∀ c ∈ s, isHalfLetter c = false) : halfLevel s = 0 := by
  match s with
  | [] => rfl
  | [c] => rfl
  | [c, d] => simp [halfLevel, hs d (by simp)]
  | c :: d :: e :: t => simp [halfLevel, hs d (by simp), hs e (by simp)]

theorem isSublevelMark_of_isDecimalDigit {c : Char} (h : isDecimalDigit c = true) :
    isSublevelMark c = false :=
  eq_false_of_mem mem_of_isSublevelMark (by decide) h

theorem isHalfLetter_of_isDecimalDigit {c : Char} (h : isDecimalDigit c = true) :
    isHalfLetter c = false :=
  eq_false_of_mem mem_of_isHalfLetter (by decide) h

/-- No sign begins with a digit. -/
theorem signs_of_digits (hne : s ≠ []) (hs : ∀ c ∈ s, isDecimalDigit c = true) (t : List Char) :
    longSign (s ++ t) = 0 ∧ shortSign (s ++ t) = 0 := by
  cases s with
  | nil => exact absurd rfl hne
  | cons c s =>
    have hc := hs c List.mem_cons_self
    exact ⟨longSign_cons (eq_false_of_mem mem_of_isLongSignStart (by decide) hc) (s ++ t),
      shortSign_cons (eq_false_of_mem mem_of_isShortSign (by decide) hc) (s ++ t)⟩

/-! ## Digits alone -/

theorem decimal_of_digits (hs : ∀ c ∈ s, isDecimalDigit c = true) : decimal s = 0 := by
  simp only [decimal, List.dropWhile_eq_nil_iff.mpr hs]

/-- Digits are taken in pairs; a last one without a partner is left. -/
theorem pairs_of_digits (hs : ∀ c ∈ s, isDecimalDigit c = true) :
    pairs s = 2 * (s.length / 2) := by
  fun_induction pairs s with
  | case1 c d t hpair ih =>
    rw [ih fun e he => hs e (by simp [he]), List.length_cons, List.length_cons]
    omega
  | case2 c d t hpair => exact absurd (.inr ⟨hs c (by simp), hs d (by simp)⟩) hpair
  | case3 s hshort =>
    cases s with
    | nil => rfl
    | cons c t =>
      cases t with
      | nil => simp
      | cons d t => exact absurd rfl (hshort c d t)

/-- Of a run of digits the first token is the pairs, or the digit if there is one
alone. -/
theorem length_digits (hne : s ≠ []) (hs : ∀ c ∈ s, isDecimalDigit c = true) :
    length s = if s.length = 1 then 1 else 2 * (s.length / 2) := by
  have hprior : ∀ other ∈ [longSign, shortSign, sublevelCode, halfLevel, decimal],
      other s = 0 := by
    have hsigns := signs_of_digits hne hs []
    rw [List.append_nil] at hsigns
    simp only [List.forall_mem_cons]
    exact ⟨hsigns.1, hsigns.2,
      sublevelCode_of_unmarked fun c hc => isSublevelMark_of_isDecimalDigit (hs c hc),
      halfLevel_of_unmarked fun c hc => isHalfLetter_of_isDecimalDigit (hs c hc),
      decimal_of_digits hs, List.forall_mem_nil _⟩
  have hpos : s.length ≠ 0 := fun h0 => hne (List.length_eq_zero_iff.mp h0)
  have hpairs := pairs_of_digits hs
  rw [length_eq_firstOf]
  split
  · -- one digit: neither a pair nor a word, but a number
    rename_i hone
    obtain ⟨c, rfl⟩ := List.length_eq_one_iff.mp hone
    have hc := hs c (by simp)
    have hword : word [c] = 0 := word_cons
      (eq_false_of_mem mem_of_isWordMark (by decide) hc)
      (eq_false_of_class isDecimalDigit_of_isSmallLetter hc) []
    have hnumber : number [c] = 1 := by simp [number, isNumberChar_iff.mpr (.inl hc)]
    have hprior' : ∀ other ∈ [longSign, shortSign, sublevelCode, halfLevel, decimal, pairs, word],
        other [c] = 0 := by
      simp only [List.forall_mem_cons] at hprior ⊢
      exact ⟨hprior.1, hprior.2.1, hprior.2.2.1, hprior.2.2.2.1, hprior.2.2.2.2.1, rfl, hword,
        List.forall_mem_nil _⟩
    rw [← hnumber]
    exact firstOf_of_prior number [] hprior' (by rw [hnumber]; exact Nat.one_ne_zero)
  · rw [← hpairs]
    exact firstOf_of_prior pairs [word, number] hprior (by omega)

theorem isLexeme_digits_iff (hs : ∀ c ∈ s, isDecimalDigit c = true) :
    IsLexeme s ↔ s.length = 1 ∨ s ≠ [] ∧ s.length % 2 = 0 := by
  constructor
  · intro h
    have hlength := h.length_eq
    rw [length_digits h.ne_nil hs] at hlength
    split at hlength
    · exact .inl ‹_›
    · exact .inr ⟨h.ne_nil, by omega⟩
  · intro h
    have hne : s ≠ [] := by
      rintro rfl
      simp at h
    refine ⟨hne, ?_⟩
    rw [length_digits hne hs]
    split <;> omega

/-! ## Digits with letters, points and marks -/

theorem isLexeme_halfLevel {letter : Char} (hs : ∀ c ∈ s, isDecimalDigit c = true)
    (hlength : s.length = 1 ∨ s.length = 2) (hletter : isHalfLetter letter = true) :
    IsLexeme (s ++ [letter]) := by
  have hmark : isSublevelMark letter = false :=
    eq_false_of_mem mem_of_isSublevelMark (by decide) hletter
  have hunmarked : ∀ c ∈ s ++ [letter], isSublevelMark c = false := by
    intro c hc
    rcases List.mem_append.mp hc with hc | hc
    · exact isSublevelMark_of_isDecimalDigit (hs c hc)
    · rw [List.mem_singleton.mp hc]
      exact hmark
  have hhalf : halfLevel (s ++ [letter]) = (s ++ [letter]).length := by
    match s, hlength with
    | [d], _ => simp [halfLevel, hs d (by simp), hletter]
    | [d, e], _ => simp [halfLevel, hs d (by simp), hs e (by simp), hletter]
  have hprior : ∀ other ∈ [longSign, shortSign, sublevelCode], other (s ++ [letter]) = 0 := by
    have hne : s ≠ [] := by
      rintro rfl
      simp at hlength
    have hsigns := signs_of_digits hne hs [letter]
    simp only [List.forall_mem_cons]
    exact ⟨hsigns.1, hsigns.2, sublevelCode_of_unmarked hunmarked, List.forall_mem_nil _⟩
  exact isLexeme_of_shape hprior rfl (by simp) hhalf

theorem isLexeme_decimal {t : List Char} (hne : s ≠ []) (hs : ∀ c ∈ s, isDecimalDigit c = true)
    (ht : ∀ c ∈ t, isDecimalDigit c = true) : IsLexeme (s ++ '.' :: t) := by
  have hchars : ∀ c ∈ s ++ '.' :: t, isDecimalDigit c = true ∨ c = '.' := by
    intro c hc
    rcases List.mem_append.mp hc with hc | hc
    · exact .inl (hs c hc)
    · exact (List.mem_cons.mp hc).symm.imp_left (ht c)
  have hdecimal : decimal (s ++ '.' :: t) = (s ++ '.' :: t).length := by
    rw [decimal_of_point hne hs, List.takeWhile_eq_self_iff.mpr ht, List.length_append,
      List.length_cons]
    omega
  have hprior : ∀ other ∈ [longSign, shortSign, sublevelCode, halfLevel],
      other (s ++ '.' :: t) = 0 := by
    have hsigns := signs_of_digits hne hs ('.' :: t)
    simp only [List.forall_mem_cons]
    refine ⟨hsigns.1, hsigns.2, sublevelCode_of_unmarked fun c hc => ?_,
      halfLevel_of_unmarked fun c hc => ?_, List.forall_mem_nil _⟩
    · rcases hchars c hc with hc | rfl
      · exact isSublevelMark_of_isDecimalDigit hc
      · decide
    · rcases hchars c hc with hc | rfl
      · exact isHalfLetter_of_isDecimalDigit hc
      · decide
  exact isLexeme_of_shape hprior rfl (by simp) hdecimal

/-- After a sign or a point all characters of numbers are taken together. -/
theorem isLexeme_number {c : Char} (hc : c ∈ ['+', '-', '.'])
    (hs : ∀ d ∈ s, isNumberChar d = true) : IsLexeme (c :: s) := by
  have hclasses : ∀ c ∈ ['+', '-', '.'], isLongSignStart c = false ∧ isShortSign c = false ∧
      c ≠ '0' ∧ isMarkedDigit c = false ∧ isDecimalDigit c = false ∧ c ≠ 'c' ∧
      isSmallLetter c = false ∧ isNumberChar c = true := forall_mem_of_all (by decide)
  obtain ⟨hlong, hshort, hzero, hmarked, hdigit, hcs, hletter, hnumber⟩ := hclasses c hc
  have hletters : letters s = 0 := by
    cases s with
    | nil => rfl
    | cons d s =>
      have hd : isSmallLetter d = false := by
        refine eq_false_of_class (fun h => ?_) (hs d List.mem_cons_self)
        rw [Bool.eq_false_iff, ne_eq, isNumberChar_iff]
        rintro (hd | hd)
        · rw [isDecimalDigit_of_isSmallLetter h] at hd
          exact absurd hd (by decide)
        · have all : ∀ e ∈ ['+', '-', '.'], isSmallLetter e = false :=
            forall_mem_of_all (by decide)
          rw [all d hd] at h
          exact absurd h (by decide)
      simp [letters, hd]
  have hword : word (c :: s) = 0 := by
    rw [word_eq_marked, marked, hletters, letters, List.takeWhile_cons, hletter]
    split <;> rfl
  have hall : number (c :: s) = (c :: s).length := by
    rw [number, List.takeWhile_eq_self_iff.mpr (by simpa [hnumber] using hs)]
  have hprior : ∀ other ∈ [longSign, shortSign, sublevelCode, halfLevel, decimal, pairs, word],
      other (c :: s) = 0 := by
    simp only [List.forall_mem_cons]
    exact ⟨longSign_cons hlong s, shortSign_cons hshort s, sublevelCode_cons hzero hmarked s,
      halfLevel_cons hdigit s, decimal_cons hdigit s, pairs_cons hdigit hcs s, hword,
      List.forall_mem_nil _⟩
  exact isLexeme_of_shape hprior rfl (List.cons_ne_nil _ _) hall

theorem isLexeme_cs : IsLexeme ['c', 's'] := ⟨by decide, by decide⟩

end Numbers

/-! ## The last character -/

/-- What the shape takes as a whole ends in a character of the class. -/
def Shape.EndsIn (p : Char → Bool) (shape : Shape) : Prop :=
  ∀ s, shape s = s.length → ∀ d ∈ s.getLast?, p d = true

namespace Shape.EndsIn

theorem of_beginsWith {classes : List (Char → Bool)} {s : List Char}
    (h : beginsWith classes s = true) (hlength : classes.length = s.length) :
    ∀ p ∈ classes.getLast?, ∀ d ∈ s.getLast?, p d = true := by
  induction classes generalizing s with
  | nil => simp
  | cons q classes ih =>
    cases s with
    | nil => simp
    | cons c s =>
      rw [beginsWith, Bool.and_eq_true] at h
      have hlength' : classes.length = s.length := by simpa using hlength
      cases classes with
      | nil =>
        rw [List.eq_nil_of_length_eq_zero hlength'.symm]
        simpa using h.1
      | cons q' classes =>
        cases s with
        | nil => exact absurd hlength' (by simp)
        | cons c' s => simpa using ih h.2 hlength'

theorem fixed {classes : List (Char → Bool)} {p : Char → Bool} (hp : p ∈ classes.getLast?) :
    EndsIn p (fixed classes) := by
  intro s hs
  unfold Token.fixed at hs
  split at hs
  · exact of_beginsWith ‹_› hs p hp
  · rw [List.eq_nil_of_length_eq_zero hs.symm]
    simp

theorem letters : EndsIn isSmallLetter letters := by
  intro s hs d hd
  have hall := List.takeWhile_eq_self_iff.mp
    ((List.takeWhile_prefix isSmallLetter).eq_of_length hs)
  exact hall d (List.mem_of_getLast? hd)

theorem marked {p isMark : Char → Bool} {shape : Shape} (h : EndsIn p shape) :
    EndsIn p (marked isMark shape) := by
  intro s hs
  cases s with
  | nil => simp
  | cons c s =>
    cases hc : isMark c with
    | false =>
      rw [marked_of_not_mark hc] at hs
      exact h (c :: s) hs
    | true =>
      rw [marked_of_mark hc, List.length_cons] at hs
      split at hs
      · exact absurd hs (by simp)
      · -- something follows the mark
        rename_i hpos
        have hlength := Nat.succ.inj hs
        cases s with
        | nil => exact absurd hlength hpos
        | cons c' s => simpa using h (c' :: s) hlength

theorem firstOf {p : Char → Bool} {l : List Shape} (h : ∀ shape ∈ l, EndsIn p shape) :
    EndsIn p (firstOf l) := by
  intro s hs
  cases s with
  | nil => simp
  | cons c s =>
    obtain ⟨shape, hmem, heq⟩ := exists_shape_of_firstOf (l := l) (s := c :: s) (by simp [hs])
    exact h shape hmem (c :: s) (heq.trans hs)

theorem longSign : EndsIn (· == '=') longSign := by
  rw [longSign_eq_fixed]
  exact fixed (by simp)

theorem shortSign : EndsIn isShortSign shortSign := by
  rw [shortSign_eq_fixed]
  exact fixed (by simp)

theorem sublevelCode : EndsIn isSublevelMark sublevelCode := by
  rw [sublevelCode_eq_marked, markedNumber_eq_fixed]
  exact marked (fixed (by simp))

theorem halfLevel : EndsIn isHalfLetter halfLevel := by
  rw [halfLevel_eq_firstOf]
  apply firstOf
  simp only [List.forall_mem_cons]
  exact ⟨fixed (by simp), fixed (by simp), List.forall_mem_nil _⟩

theorem word : EndsIn isSmallLetter word := by
  rw [word_eq_marked]
  exact marked letters

end Shape.EndsIn

/-- Digits and the letters of `cs` are all that pairs consist of. -/
theorem chars_of_pairs {s : List Char} (h : pairs s = s.length) :
    ∀ c ∈ s, isDecimalDigit c = true ∨ c ∈ ['c', 's'] := by
  fun_induction pairs s with
  | case1 c d t hpair ih =>
    have ih := ih (by simpa using h)
    simp only [List.forall_mem_cons]
    rcases hpair with ⟨rfl, rfl⟩ | ⟨hc, hd⟩
    · exact ⟨.inr (by decide), .inr (by decide), ih⟩
    · exact ⟨.inl hc, .inl hd, ih⟩
  | case2 c d t hpair => exact absurd h (by simp)
  | case3 s hshort =>
    rw [List.eq_nil_of_length_eq_zero h.symm]
    simp

theorem chars_of_decimal {s : List Char} (hne : s ≠ []) (h : decimal s = s.length) :
    ∀ c ∈ s, isDecimalDigit c = true ∨ c = '.' := by
  have hpos : decimal s ≠ 0 := by
    rw [h]
    exact fun h0 => hne (List.length_eq_zero_iff.mp h0)
  obtain ⟨whole, t, rfl, hwhole, hdigits⟩ := exists_point_of_decimal hpos
  rw [decimal_of_point hwhole hdigits, List.length_append, List.length_cons] at h
  have hrun : (t.takeWhile isDecimalDigit).length = t.length := by omega
  have hrest := List.takeWhile_eq_self_iff.mp
    ((List.takeWhile_prefix isDecimalDigit).eq_of_length hrun)
  intro c hc
  rcases List.mem_append.mp hc with hc | hc
  · exact .inl (hdigits c hc)
  · exact (List.mem_cons.mp hc).symm.imp_left (hrest c)

/-- No letter but those of `cs` stands in a lexeme that ends in a digit. -/
theorem IsLexeme.chars_of_getLast {token : List Char} (h : IsLexeme token) {d : Char}
    (hlast : d ∈ token.getLast?) (hd : isDecimalDigit d = true) :
    ∀ c ∈ token, isNumberChar c = true ∨ c ∈ ['c', 's'] := by
  obtain ⟨shape, hmem, htoken⟩ := h.exists_shape
  -- a shape that ends in a class without digits did not take the token
  have hends : ∀ {p : Char → Bool}, shape.EndsIn p → p d = false → False := by
    intro p hp hpd
    rw [hp token htoken d hlast] at hpd
    exact absurd hpd (by decide)
  simp only [shapes, List.mem_cons, List.not_mem_nil, or_false] at hmem
  rcases hmem with rfl | rfl | rfl | rfl | rfl | rfl | rfl | rfl
  · refine (hends .longSign (beq_eq_false_iff_ne.mpr ?_)).elim
    rintro rfl
    exact absurd hd (by decide)
  · exact (hends .shortSign (eq_false_of_mem mem_of_isShortSign (by decide) hd)).elim
  · exact (hends .sublevelCode (eq_false_of_mem mem_of_isSublevelMark (by decide) hd)).elim
  · exact (hends .halfLevel (eq_false_of_mem mem_of_isHalfLetter (by decide) hd)).elim
  · intro c hc
    rcases chars_of_decimal h.ne_nil htoken c hc with hc | rfl
    · exact .inl (isNumberChar_iff.mpr (.inl hc))
    · exact .inl (by decide)
  · intro c hc
    exact (chars_of_pairs htoken c hc).imp_left fun hc => isNumberChar_iff.mpr (.inl hc)
  · exact (hends .word (eq_false_of_class isDecimalDigit_of_isSmallLetter hd)).elim
  · intro c hc
    have hall := List.takeWhile_eq_self_iff.mp
      ((List.takeWhile_prefix isNumberChar).eq_of_length htoken)
    exact .inl (hall c hc)

end ChartCatalog.Token
