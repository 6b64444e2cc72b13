import ChartCatalog.Proofs.Token.Lexeme

/-!
# Tokens keep the text

Cutting a text into tokens loses nothing but the blanks, and blanks do nothing but
separate (`tokens_lossless`): put together, the tokens are the text without its blanks;
the signs of comparison in it stand in tokens of their own; and a token is cut into
itself, so the tokens with a space between each two are cut into the same tokens again.
-/

namespace ChartCatalog.Token

open Text

/-! ## Tokens on their own -/

theorem scanFrom_of_isUnshaped {acc run : List Char} (h : IsUnshaped run) :
    scanFrom acc run = leftover (acc ++ run) := by
  induction run generalizing acc with
  | nil => rw [scanFrom_nil, List.append_nil]
  | cons c run ih =>
    have hrest : IsUnshaped run := by
      refine ⟨fun t ht => ?_, fun d hd => ?_⟩
      · exact h.length_eq t (ht.trans (List.suffix_cons c run))
      · exact h.isBlank_eq d (List.mem_cons_of_mem c hd)
    have hlength := h.length_eq (c :: run) List.suffix_rfl
    have hblank := h.isBlank_eq c List.mem_cons_self
    rw [scanFrom_skip acc hlength hblank, ih hrest]
    simp

theorem scan_of_isLexeme {token : List Char} (h : IsLexeme token) : scan token = [token] := by
  have hall : length (token ++ []) = token.length := by
    rw [List.append_nil, h.length_eq]
  have hscan := scan_token_append h.ne_nil hall
  rwa [List.append_nil, scan_nil] at hscan

/-- A token is cut into itself. -/
theorem scan_of_mem_scan {s token : List Char} (h : token ∈ scan s) : scan token = [token] := by
  rcases lexeme_or_unshaped_of_mem_scan h with hlexeme | ⟨hne, hunshaped⟩
  · exact scan_of_isLexeme hlexeme
  · rw [scan, scanFrom_of_isUnshaped hunshaped, List.nil_append, leftover, if_neg hne]

/-! ## Texts with blanks between them -/

/-- A run of blanks separates like a single one. -/
theorem scan_append_blanks_append {blanks : List Char} (hne : blanks ≠ [])
    (hb : isBlankText blanks = true) (s t : List Char) :
    scan (s ++ blanks ++ t) = scan s ++ scan t := by
  cases blanks with
  | nil => exact absurd rfl hne
  | cons b blanks =>
    rw [isBlankText, List.all_cons, Bool.and_eq_true] at hb
    rw [List.append_assoc, List.cons_append, scan_append_blank s (blanks ++ t) hb.1,
      scan_blanks_append hb.2]

theorem scan_intercalate_space (parts : List (List Char)) :
    scan ([' '].intercalate parts) = parts.flatMap scan := by
  induction parts with
  | nil => rw [List.intercalate_nil, scan_nil, List.flatMap_nil]
  | cons part parts ih =>
    cases parts with
    | nil => simp
    | cons next parts =>
      rw [List.intercalate_cons_cons,
        scan_append_blanks_append (List.cons_ne_nil _ _) (by decide) part, ih]
      rfl

theorem scan_intercalate_scan (s : List Char) :
    scan ([' '].intercalate (scan s)) = scan s := by
  have hmap : (scan s).map scan = (scan s).map fun token => [token] :=
    List.map_congr_left fun token h => scan_of_mem_scan h
  rw [scan_intercalate_space, List.flatMap_def, hmap, ← List.flatMap_def]
  exact List.flatMap_singleton' (scan s)

/-! ## Signs of comparison -/

/-- What the shape takes as a whole consists of characters of the class. -/
def Shape.HasOnly (p : Char → Bool) (shape : Shape) : Prop :=
  ∀ s, shape s = s.length → ∀ d ∈ s, p d = true

namespace Shape.HasOnly

variable {p : Char → Bool}

theorem of_beginsWith {classes : List (Char → Bool)} {s : List Char}
    (h : beginsWith classes s = true) (hlength : classes.length = s.length)
    (hclasses : ∀ q ∈ classes, ∀ d, q d = true → p d = true) : ∀ d ∈ s, p d = true := by
  induction classes generalizing s with
  | nil =>
    rw [List.eq_nil_of_length_eq_zero hlength.symm]
    simp
  | cons q classes ih =>
    cases s with
    | nil => simp
    | cons c s =>
      rw [beginsWith, Bool.and_eq_true] at h
      simp only [List.forall_mem_cons] at hclasses ⊢
      exact ⟨hclasses.1 c h.1, ih h.2 (by simpa using hlength) hclasses.2⟩

theorem fixed {classes : List (Char → Bool)}
    (hclasses : ∀ q ∈ classes, ∀ d, q d = true → p d = true) : HasOnly p (fixed classes) := by
  intro s hs
  unfold Token.fixed at hs
  split at hs
  · exact of_beginsWith ‹_› hs hclasses
  · rw [List.eq_nil_of_length_eq_zero hs.symm]
    simp

/-- A run of characters of a class. -/
theorem run {q : Char → Bool} (hq : ∀ d, q d = true → p d = true) :
    HasOnly p fun s => (s.takeWhile q).length := by
  intro s hs d hd
  have hall := List.takeWhile_eq_self_iff.mp ((List.takeWhile_prefix q).eq_of_length hs)
  exact hq d (hall d hd)

theorem marked {isMark : Char → Bool} {shape : Shape} (h : HasOnly p shape)
    (hmark : ∀ d, isMark d = true → p d = true) : HasOnly p (marked isMark shape) := by
  intro s hs
  cases s with
  | nil => simp
  | cons c s =>
    cases hc : isMark c with
    | false =>
      rw [marked_of_not_mark hc] at hs
      exact h (c :: s) hs
    | true =>
      rw [marked_of_mark hc, List.length_cons] at hs
      split at hs
      · exact absurd hs (by simp)
      · rw [List.forall_mem_cons]
        exact ⟨hmark c hc, h s (Nat.succ.inj hs)⟩

theorem firstOf {l : List Shape} (h : ∀ shape ∈ l, HasOnly p shape) : HasOnly p (firstOf l) := by
  intro s hs
  cases s with
  | nil => simp
  | cons c s =>
    obtain ⟨shape, hmem, heq⟩ := exists_shape_of_firstOf (l := l) (s := c :: s) (by simp [hs])
    exact h shape hmem (c :: s) (heq.trans hs)

end Shape.HasOnly

/-- The characters that are no sign of comparison. -/
def isOther (c : Char) : Bool := !isShortSign c

theorem isOther_of_class {q : Char → Bool} (hq : ['=', '>', '<'].any q = false) :
    ∀ d, q d = true → isOther d = true := by
  intro d hd
  rw [isOther, eq_false_of_mem mem_of_isShortSign hq hd, Bool.not_false]

/-- The shapes of all tokens but signs have no sign in them. -/
theorem hasOnly_isOther {shape : Shape} (h : shape ∈ shapes) (hlong : shape ≠ longSign)
    (hshort : shape ≠ shortSign) {s : List Char} (hne : s ≠ []) (hs : shape s = s.length) :
    ∀ d ∈ s, isOther d = true := by
  have hdigit : ∀ d, isDecimalDigit d = true → isOther d = true := isOther_of_class (by decide)
  simp only [shapes, List.mem_cons, List.not_mem_nil, or_false] at h
  rcases h with rfl | rfl | rfl | rfl | rfl | rfl | rfl | rfl
  · exact absurd rfl hlong
  · exact absurd rfl hshort
  · rw [sublevelCode_eq_marked, markedNumber_eq_fixed] at hs
    refine Shape.HasOnly.marked (.fixed ?_) (isOther_of_class (by decide)) s hs
    simp only [List.forall_mem_cons]
    exact ⟨isOther_of_class (by decide), isOther_of_class (by decide), List.forall_mem_nil _⟩
  · rw [halfLevel_eq_firstOf] at hs
    refine Shape.HasOnly.firstOf ?_ s hs
    have hletter : ∀ d, isHalfLetter d = true → isOther d = true := isOther_of_class (by decide)
    simp only [List.forall_mem_cons]
    refine ⟨.fixed ?_, .fixed ?_, List.forall_mem_nil _⟩
    · simp only [List.forall_mem_cons]
      exact ⟨hdigit, hdigit, hletter, List.forall_mem_nil _⟩
    · simp only [List.forall_mem_cons]
      exact ⟨hdigit, hletter, List.forall_mem_nil _⟩
  · intro d hd
    rcases chars_of_decimal hne hs d hd with hd | rfl
    · exact hdigit d hd
    · decide
  · intro d hd
    rcases chars_of_pairs hs d hd with hd | hd
    · exact hdigit d hd
    · have all : ∀ d ∈ ['c', 's'], isOther d = true := forall_mem_of_all (by decide)
      exact all d hd
  · rw [word_eq_marked] at hs
    exact Shape.HasOnly.marked (.run (isOther_of_class (by decide)))
      (isOther_of_class (by decide)) s hs
  · exact Shape.HasOnly.run (isOther_of_class (by decide)) s hs

theorem mem_signs_of_longSign {s : List Char} (hne : s ≠ []) (h : longSign s = s.length) :
    s ∈ signs := by
  match s with
  | [] => exact absurd rfl hne
  | [c] => simp [longSign] at h
  | c :: d :: t =>
    by_cases hd : d = '='
    · subst hd
      rw [longSign] at h
      split at h
      · have ht : t = [] := by simpa using h.symm
        subst ht
        rename_i hc
        rcases hc with rfl | rfl | rfl <;> decide
      · simp at h
    · simp [longSign, hd] at h

theorem mem_signs_of_shortSign {s : List Char} (hne : s ≠ []) (h : shortSign s = s.length) :
    s ∈ signs := by
  cases s with
  | nil => exact absurd rfl hne
  | cons c t =>
    rw [shortSign] at h
    split at h
    · have ht : t = [] := by simpa using h.symm
      subst ht
      rename_i hc
      rcases hc with rfl | rfl | rfl <;> decide
    · simp at h

theorem IsLexeme.mem_signs {token : List Char} (h : IsLexeme token) {c : Char} (hc : c ∈ token)
    (hsign : isShortSign c = true) : token ∈ signs := by
  obtain ⟨shape, hmem, htoken⟩ := h.exists_shape
  by_cases hlong : shape = longSign
  · exact mem_signs_of_longSign h.ne_nil (hlong ▸ htoken)
  by_cases hshort : shape = shortSign
  · exact mem_signs_of_shortSign h.ne_nil (hshort ▸ htoken)
  · have hother := hasOnly_isOther hmem hlong hshort h.ne_nil htoken c hc
    rw [isOther, hsign] at hother
    exact absurd hother (by decide)

theorem not_isInert_of_isShortSign {c : Char} (h : isShortSign c = true) : ¬ IsInert c := by
  intro hinert
  have all : ∀ c ∈ ['=', '>', '<'], length [c] ≠ 0 := forall_mem_of_all (by decide)
  exact all c (mem_of_isShortSign h) hinert.length_eq

/-- Signs of comparison stand in no other tokens. -/
theorem mem_signs_of_mem_scan {s token : List Char} (h : token ∈ scan s) {c : Char}
    (hc : c ∈ token) (hsign : isShortSign c = true) : token ∈ signs := by
  rcases mem_scan h with hlexeme | ⟨-, hinert⟩
  · exact hlexeme.mem_signs hc hsign
  · exact absurd (hinert c hc) (not_isInert_of_isShortSign hsign)

/-! ## Tokens of a clause -/

theorem toList_mem_scan {s token : String} (h : token ∈ tokens s) :
    token.toList ∈ scan s.toList := by
  obtain ⟨part, hpart, rfl⟩ := List.mem_map.mp h
  rwa [String.toList_ofList]

theorem map_toList_tokens (s : String) : (tokens s).map String.toList = scan s.toList := by
  simp [tokens, Function.comp_def]

theorem toList_join_tokens (s : String) :
    (String.join (tokens s)).toList = s.toList.filter (!isBlank ·) := by
  rw [String.toList_join, List.flatMap_def, map_toList_tokens]
  exact (spaced_scan s.toList).flatten_eq_filter fun token h _ hc => isBlank_of_mem_scan h hc

/-- The six signs of comparison. -/
def signTexts : List String := ["=", "!=", ">", ">=", "<", "<="]

theorem mem_signTexts {token : String} (h : token.toList ∈ signs) : token ∈ signTexts := by
  have all : ∀ sign ∈ signs, String.ofList sign ∈ signTexts := by decide
  have hmem := all _ h
  rwa [String.ofList_toList] at hmem

/-- Nothing is lost: no token is empty or has a blank in it, and put together the tokens
are the text without its blanks. Each `=`, `<` and `>` of the text therefore stands in a
token, and the tokens with such a character in them are the six signs. A token is cut
into itself, and so are the tokens with spaces between them. Any run of blanks, however
long, separates what stands before it from what stands after it. -/
theorem tokens_lossless :
    (∀ s : String,
      (∀ token ∈ tokens s, token ≠ "" ∧ ∀ c ∈ token.toList, isBlank c = false) ∧
      (String.join (tokens s)).toList = s.toList.filter (!isBlank ·) ∧
      (∀ token ∈ tokens s, ∀ c ∈ token.toList, c = '=' ∨ c = '<' ∨ c = '>' →
        token ∈ signTexts) ∧
      (∀ token ∈ tokens s, tokens token = [token]) ∧
      tokens (" ".intercalate (tokens s)) = tokens s) ∧
    ∀ u v w : String, w ≠ "" → isBlankText w.toList = true →
      tokens (u ++ w ++ v) = tokens u ++ tokens v := by
  refine ⟨fun s => ⟨fun token h => ⟨?_, ?_⟩, toList_join_tokens s, ?_, ?_, ?_⟩, ?_⟩
  · -- no token is empty
    intro hempty
    apply ne_nil_of_mem_scan (toList_mem_scan h)
    rw [hempty]
    rfl
  · intro c hc
    exact isBlank_of_mem_scan (toList_mem_scan h) hc
  · intro token h c hc hsign
    apply mem_signTexts
    apply mem_signs_of_mem_scan (toList_mem_scan h) hc
    rcases hsign with rfl | rfl | rfl <;> decide
  · intro token h
    rw [tokens, scan_of_mem_scan (toList_mem_scan h), List.map_singleton, String.ofList_toList]
  · rw [tokens, String.toList_intercalate, map_toList_tokens]
    exact congrArg (List.map String.ofList) (scan_intercalate_scan s.toList)
  · intro u v w hne hw
    have hne' : w.toList ≠ [] := by simpa using hne
    simp only [tokens, String.toList_append, scan_append_blanks_append hne' hw, List.map_append]

/-- A clause with blanks of several kinds, a sign of two characters and a run without a
shape. -/
theorem tokens_lossless_spaced :
    ("!=" ∈ tokens "lv\u3000!= ４６強弱弱" ∧ "!=" ∈ signTexts ∧ tokens "!=" = ["!="]) ∧
      tokens ("lv" ++ "\u3000 " ++ "!= ４６強弱弱") = tokens "lv" ++ tokens "!= ４６強弱弱" := by
  have hmem : "!=" ∈ tokens "lv\u3000!= ４６強弱弱" := by decide +kernel
  obtain ⟨-, -, hsigns, hself, -⟩ := tokens_lossless.1 "lv\u3000!= ４６強弱弱"
  refine ⟨⟨hmem, hsigns "!=" hmem '=' (by decide) (.inl rfl), hself "!=" hmem⟩, ?_⟩
  exact tokens_lossless.2 "lv" "!= ４６強弱弱" "\u3000 " (by decide) (by decide)

end ChartCatalog.Token
