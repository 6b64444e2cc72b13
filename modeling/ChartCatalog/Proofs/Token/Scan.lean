import Mathlib.Data.List.Chain
import ChartCatalog.Proofs.Text.Spaced
import ChartCatalog.Proofs.Token.Lawful

/-!
# Cutting a text into tokens

What `scan` does to a whole text, from the laws of `length` alone. The tokens
with blanks around them are the text (`spaced_scan`), a blank separates
(`scan_append_blank`), and every token either has a shape, which takes all of it
(`IsLexeme`), or consists of characters with which no shape begins
(`mem_scan`).

In the other direction a text that is spaced by lexemes is cut into them,
provided that no lexeme runs into the one that follows when the two touch
(`scan_of_spaced`).
-/

namespace ChartCatalog.Token

open Text

/-! ## One step -/

theorem length_of_isBlank {b : Char} (hb : isBlank b = true) (s : List Char) :
    length (b :: s) = 0 :=
  lawful_length.of_blank hb s

@[simp] theorem length_nil : length [] = 0 := Nat.le_zero.mp (lawful_length.le_length [])

@[simp] theorem leftover_nil : leftover [] = [] := rfl

theorem scanFrom_nil (run : List Char) : scanFrom run [] = leftover run := by
  rw [scanFrom]

theorem scanFrom_blank (run : List Char) {b : Char} (hb : isBlank b = true) (s : List Char) :
    scanFrom run (b :: s) = leftover run ++ scanFrom [] s := by
  rw [scanFrom, length_of_isBlank hb]
  exact if_pos hb

theorem scanFrom_skip (run : List Char) {c : Char} {s : List Char} (h0 : length (c :: s) = 0)
    (hc : isBlank c = false) : scanFrom run (c :: s) = scanFrom (run ++ [c]) s := by
  rw [scanFrom, h0]
  exact if_neg (by simp [hc])

theorem scanFrom_token (run : List Char) {s : List Char} (h : length s ≠ 0) :
    scanFrom run s = leftover run ++ s.take (length s) :: scanFrom [] (s.drop (length s)) := by
  cases s with
  | nil => exact absurd length_nil h
  | cons c s =>
    rw [scanFrom]
    cases hn : length (c :: s) with
    | zero => exact absurd hn h
    | succ n => rfl

/-- The four ways on which cutting goes on: the end of the text, a blank, a
character with which no token begins, and a token. -/
theorem scanFrom_induction {motive : List Char → List Char → Prop}
    (nil : ∀ run, motive run [])
    (blank : ∀ run b s, isBlank b = true → motive [] s → motive run (b :: s))
    (skip : ∀ run c s, length (c :: s) = 0 → isBlank c = false → motive (run ++ [c]) s →
      motive run (c :: s))
    (token : ∀ run s, length s ≠ 0 → motive [] (s.drop (length s)) → motive run s)
    (run s : List Char) : motive run s := by
  fun_induction scanFrom run s with
  | case1 run => exact nil run
  | case2 run c s hn hb ih => exact blank run c s hb ih
  | case3 run c s hn hb ih => exact skip run c s hn (by simpa using hb) ih
  | case4 run c s n hn ih =>
    refine token run (c :: s) (by omega) ?_
    rw [hn, List.drop_succ_cons]
    exact ih

/-! ## The tokens are the text -/

theorem spaced_leftover_append (run : List Char) {parts : List (List Char)} {s : List Char}
    (h : Spaced parts s) : Spaced (leftover run ++ parts) (run ++ s) := by
  unfold leftover
  split
  · rename_i hrun
    rw [hrun]
    exact h
  · exact .cons_append h

theorem spaced_scanFrom (run s : List Char) : Spaced (scanFrom run s) (run ++ s) := by
  induction run, s using scanFrom_induction with
  | nil run =>
    rw [scanFrom_nil, ← List.append_nil (leftover run)]
    exact spaced_leftover_append run (.nil rfl)
  | blank run b s hb ih =>
    rw [scanFrom_blank run hb]
    have hblanks : isBlankText [b] = true := by simp [isBlankText, hb]
    exact spaced_leftover_append run (ih.append_blanks hblanks)
  | skip run c s h0 hc ih =>
    rw [scanFrom_skip run h0 hc]
    simpa using ih
  | token run s h ih =>
    rw [scanFrom_token run h]
    apply spaced_leftover_append
    have htoken : Spaced _ (s.take (length s) ++ _) := .cons_append ih
    rwa [List.nil_append, List.take_append_drop] at htoken

/-- The tokens, with blanks around and between them, are the text. -/
theorem spaced_scan (s : List Char) : Spaced (scan s) s := spaced_scanFrom [] s

/-! ## Blanks separate -/

theorem scanFrom_append_blank (run s t : List Char) {b : Char} (hb : isBlank b = true) :
    scanFrom run (s ++ b :: t) = scanFrom run s ++ scan t := by
  induction run, s using scanFrom_induction with
  | nil run => rw [List.nil_append, scanFrom_blank run hb, scanFrom_nil, scan]
  | blank run c s hc ih =>
    rw [List.cons_append, scanFrom_blank run hc, scanFrom_blank run hc, ih, List.append_assoc]
  | skip run c s h0 hc ih =>
    have h0' : length (c :: (s ++ b :: t)) = 0 := by
      rw [← List.cons_append, lawful_length.blank (c :: s) t b hb, h0]
    rw [List.cons_append, scanFrom_skip run h0' hc, scanFrom_skip run h0 hc, ih]
  | token run s h ih =>
    have hlength := lawful_length.blank s t b hb
    have hle := lawful_length.le_length s
    rw [scanFrom_token run (by omega), scanFrom_token run h, hlength,
      List.take_append_of_le_length hle, List.drop_append_of_le_length hle, ih,
      List.append_assoc, List.cons_append]

/-- The texts on the two sides of a blank are cut on their own. -/
theorem scan_append_blank (s t : List Char) {b : Char} (hb : isBlank b = true) :
    scan (s ++ b :: t) = scan s ++ scan t :=
  scanFrom_append_blank [] s t hb

theorem scan_blanks_append {blanks : List Char} (hb : isBlankText blanks = true)
    (s : List Char) : scan (blanks ++ s) = scan s := by
  induction blanks with
  | nil => rfl
  | cons b blanks ih =>
    rw [isBlankText, List.all_cons, Bool.and_eq_true] at hb
    rw [List.cons_append, scan, scanFrom_blank [] hb.1, leftover_nil, List.nil_append]
    exact ih hb.2

theorem scan_nil : scan [] = [] := by
  rw [scan, scanFrom_nil, leftover_nil]

theorem scan_of_isBlankText {blanks : List Char} (hb : isBlankText blanks = true) :
    scan blanks = [] := by
  have h := scan_blanks_append hb []
  rwa [List.append_nil, scan_nil] at h

/-! ## What tokens look like -/

/-- A token that has a shape: when it stands alone, it is taken as a whole. -/
structure IsLexeme (token : List Char) : Prop where
  ne_nil : token ≠ []
  length_eq : length token = token.length

/-- No token begins with the character when it stands alone, nor is it a blank. -/
structure IsInert (c : Char) : Prop where
  length_eq : length [c] = 0
  isBlank_eq : isBlank c = false

/-- No token begins anywhere in the run when it stands alone, nor is there a blank
in it. -/
structure IsUnshaped (run : List Char) : Prop where
  length_eq : ∀ t, t <:+ run → length t = 0
  isBlank_eq : ∀ c ∈ run, isBlank c = false

theorem IsUnshaped.isInert {run : List Char} (h : IsUnshaped run) {c : Char} (hc : c ∈ run) :
    IsInert c := by
  refine ⟨?_, h.isBlank_eq c hc⟩
  obtain ⟨s, t, rfl⟩ := List.append_of_mem hc
  have hsuffix : length ([c] ++ t) = 0 := h.length_eq _ (List.suffix_append s (c :: t))
  exact lawful_length.eq_zero_of_append hsuffix

theorem isLexeme_take {s : List Char} (h : length s ≠ 0) : IsLexeme (s.take (length s)) := by
  have hle := lawful_length.le_length s
  have htaken : (s.take (length s)).length = length s := by
    rw [List.length_take]
    omega
  refine ⟨fun hnil => ?_, ?_⟩
  · rw [hnil, List.length_nil] at htaken
    omega
  · rw [lawful_length.take, htaken]

theorem mem_leftover {run token : List Char} : token ∈ leftover run ↔ token = run ∧ run ≠ [] := by
  unfold leftover
  split
  · rename_i h
    simp [h]
  · rename_i h
    simp [h]

/-- The run before the text is one at each place of which no token begins, whatever
is read of the text; so it is unshaped when it is cut off. -/
theorem mem_scanFrom {run s token : List Char}
    (hrun : ∀ t, t <:+ run → t ≠ [] → length (t ++ s) = 0)
    (hblank : ∀ c ∈ run, isBlank c = false) (h : token ∈ scanFrom run s) :
    IsLexeme token ∨ token ≠ [] ∧ IsUnshaped token := by
  have hleft : ∀ run s, (∀ t, t <:+ run → t ≠ [] → length (t ++ s) = 0) →
      (∀ c ∈ run, isBlank c = false) → token ∈ leftover run →
        token ≠ [] ∧ IsUnshaped token := by
    intro run s hrun hblank hmem
    obtain ⟨rfl, hne⟩ := mem_leftover.mp hmem
    refine ⟨hne, fun t ht => ?_, hblank⟩
    by_cases hnil : t = []
    · rw [hnil, length_nil]
    · exact lawful_length.eq_zero_of_append (hrun t ht hnil)
  induction run, s using scanFrom_induction with
  | nil run =>
    rw [scanFrom_nil] at h
    exact .inr (hleft run [] hrun hblank h)
  | blank run b s hb ih =>
    rw [scanFrom_blank run hb, List.mem_append] at h
    rcases h with h | h
    · exact .inr (hleft run (b :: s) hrun hblank h)
    · exact ih (by simp) (by simp) h
  | skip run c s h0 hc ih =>
    rw [scanFrom_skip run h0 hc] at h
    refine ih (fun t ht hne => ?_) (fun d hd => ?_) h
    · -- the run goes on by one character
      rcases List.suffix_concat_iff.mp ht with rfl | ⟨u, rfl, hu⟩
      · exact absurd rfl hne
      · rw [List.append_assoc, List.singleton_append]
        by_cases hnil : u = []
        · rw [hnil, List.nil_append, h0]
        · exact hrun u hu hnil
    · rcases List.mem_append.mp hd with hd | hd
      · exact hblank d hd
      · rw [List.mem_singleton.mp hd, hc]
  | token run s hlength ih =>
    rw [scanFrom_token run hlength, List.mem_append, List.mem_cons] at h
    rcases h with h | rfl | h
    · exact .inr (hleft run s hrun hblank h)
    · exact .inl (isLexeme_take hlength)
    · exact ih (by simp) (by simp) h

theorem lexeme_or_unshaped_of_mem_scan {s token : List Char} (h : token ∈ scan s) :
    IsLexeme token ∨ token ≠ [] ∧ IsUnshaped token :=
  mem_scanFrom (by simp) (by simp) h

/-- A token has a shape, or no shape begins with any of its characters. -/
theorem mem_scan {s token : List Char} (h : token ∈ scan s) :
    IsLexeme token ∨ token ≠ [] ∧ ∀ c ∈ token, IsInert c :=
  (lexeme_or_unshaped_of_mem_scan h).imp_right fun hun => ⟨hun.1, fun _ hc => hun.2.isInert hc⟩

theorem ne_nil_of_mem_scan {s token : List Char} (h : token ∈ scan s) : token ≠ [] :=
  (mem_scan h).elim (·.ne_nil) (·.1)

/-- A shape does not look beyond a blank, so there is none in a lexeme. -/
theorem IsLexeme.isBlank_eq {token : List Char} (h : IsLexeme token) {c : Char}
    (hc : c ∈ token) : isBlank c = false := by
  rw [Bool.eq_false_iff]
  intro hb
  obtain ⟨s, t, rfl⟩ := List.append_of_mem hc
  have hlength := h.length_eq
  have hle := lawful_length.le_length s
  rw [lawful_length.blank s t c hb, List.length_append, List.length_cons] at hlength
  omega

/-- There are no blanks in tokens. -/
theorem isBlank_of_mem_scan {s token : List Char} (h : token ∈ scan s) {c : Char}
    (hc : c ∈ token) : isBlank c = false := by
  rcases mem_scan h with hlexeme | ⟨-, hinert⟩
  · exact hlexeme.isBlank_eq hc
  · exact (hinert c hc).isBlank_eq

/-! ## Lexemes that stand together -/

/-- Whatever follows it, the token ends where the next one begins. -/
def EndsBefore (token next : List Char) : Prop :=
  ∀ s, length (token ++ (next ++ s)) = token.length

theorem scan_token_append {token s : List Char} (hne : token ≠ [])
    (h : length (token ++ s) = token.length) : scan (token ++ s) = token :: scan s := by
  have hpos : length (token ++ s) ≠ 0 := by
    rw [h]
    exact fun h0 => hne (List.length_eq_zero_iff.mp h0)
  rw [scan, scanFrom_token [] hpos, leftover_nil, List.nil_append, h, List.take_left,
    List.drop_left, scan]

/-- A token ends at a blank, at the end of the text, and before a token into
which it does not run. -/
theorem IsLexeme.length_append {token : List Char} (h : IsLexeme token)
    {parts : List (List Char)} {s : List Char} (hs : Spaced parts s)
    (hnext : ∀ next ∈ parts.head?, EndsBefore token next) :
    length (token ++ s) = token.length := by
  have hblank : ∀ blanks t, isBlankText blanks = true → blanks ≠ [] →
      length (token ++ (blanks ++ t)) = token.length := by
    intro blanks t hb hne
    cases blanks with
    | nil => exact absurd rfl hne
    | cons b blanks =>
      rw [isBlankText, List.all_cons, Bool.and_eq_true] at hb
      rw [List.cons_append, lawful_length.blank token _ b hb.1, h.length_eq]
  cases hs with
  | nil hb =>
    by_cases hne : s = []
    · rw [hne, List.append_nil, h.length_eq]
    · have := hblank s [] hb hne
      rwa [List.append_nil] at this
  | @cons blanks part s parts hb hs =>
    by_cases hne : blanks = []
    · rw [hne, List.nil_append]
      exact hnext part rfl s
    · rw [List.append_assoc]
      exact hblank blanks (part ++ s) hb hne

/-- A text that consists of lexemes with blanks around and between them is cut
into these lexemes, if none runs into the next. -/
theorem scan_of_spaced {parts : List (List Char)} {s : List Char} (h : Spaced parts s)
    (hlexemes : ∀ token ∈ parts, IsLexeme token) (hends : parts.IsChain EndsBefore) :
    scan s = parts := by
  induction h with
  | nil hb => exact scan_of_isBlankText hb
  | @cons blanks token s parts hb hs ih =>
    have htoken := hlexemes token List.mem_cons_self
    have hlength := htoken.length_append hs fun next hnext => by
      cases parts with
      | nil => exact absurd hnext (by simp)
      | cons first parts =>
        cases hnext
        exact (List.isChain_cons_cons.mp hends).1
    rw [List.append_assoc, scan_blanks_append hb, scan_token_append htoken.ne_nil hlength,
      ih (fun token ht => hlexemes token (List.mem_cons_of_mem _ ht)) hends.tail]

end ChartCatalog.Token
