import ChartCatalog.Proofs.Json.Literal

/-!
# Tokens of a document as text

Escaping loses nothing: every character, whatever it is, is read back from what
stands for it in a string (`stringItems?_escapedChar`), and so is every text from
its quoted form. A token is then read back from its text and what follows it is
left alone (`tokens?_text_append`); only a number depends on what follows.
-/

namespace ChartCatalog.Json

open Text

/-! ## Strings -/

/-- An escape by letter stands for its character. -/
theorem stringItems?_letter {letter c : Char} (hletter : letter ≠ 'u')
    (h : escapeChar? letter = some c) (s : List Char) :
    stringItems? ('\\' :: letter :: s) =
      (stringItems? s).map fun (items, rest) => (.char c :: items, rest) := by
  rw [stringItems?.eq_def]
  split
  · rename_i heq; cases heq
  · rename_i heq; cases heq
  · rename_i heq; cases heq; exact absurd rfl hletter
  · rename_i heq
    cases heq
    rw [h]
    cases stringItems? s <;> rfl
  · rename_i hescape heq
    cases heq
    exact absurd rfl (hescape _ _ rfl)

/-- A control character is written by its code. -/
theorem controlEscape_eq {c : Char} (h : c.toNat < 0x20) : ∃ high low,
    controlEscape c = ['\\', 'u', '0', '0', high, low] ∧
      hexCode? '0' '0' high low = some c.toNat := by
  have all : ∀ n : Fin 0x20,
      controlEscape (Char.ofNat n) =
        ['\\', 'u', '0', '0', (n.val / 16).digitChar, (n.val % 16).digitChar] ∧
      hexCode? '0' '0' (n.val / 16).digitChar (n.val % 16).digitChar = some n.val := by
    decide
  have hc := all ⟨c.toNat, h⟩
  rw [Char.ofNat_toNat] at hc
  exact ⟨_, _, hc⟩

theorem itemOfCode_toNat {c : Char} (h : c.toNat < 0x20) : itemOfCode c.toNat = .char c := by
  unfold itemOfCode
  rw [if_neg (by omega), Char.ofNat_toNat]

/-- A character that needs no escape stands for itself. -/
theorem stringItems?_self {c : Char} (hquote : c ≠ '"') (hescape : c ≠ '\\')
    (hcontrol : ¬ c.toNat < 0x20) (s : List Char) :
    stringItems? (c :: s) =
      (stringItems? s).map fun (items, rest) => (.char c :: items, rest) := by
  rw [stringItems?.eq_def]
  split
  · rename_i heq; cases heq
  · rename_i heq; cases heq; exact absurd rfl hquote
  · rename_i heq; cases heq; exact absurd rfl hescape
  · rename_i heq; cases heq; exact absurd rfl hescape
  · rename_i heq
    cases heq
    rw [if_neg (by simp [hcontrol, hescape])]
    cases stringItems? s <;> rfl

/-- Every character is read back from what stands for it in a string. -/
theorem stringItems?_escapedChar (c : Char) (s : List Char) :
    stringItems? (escapedChar c ++ s) =
      (stringItems? s).map fun (items, rest) => (.char c :: items, rest) := by
  unfold escapedChar
  split
  -- the escapes by letter
  iterate 7 exact stringItems?_letter (by decide) rfl s
  · rename_i hquote hescape _ _ _ _ _
    by_cases hcontrol : c.toNat < 0x20
    · -- an escape by code
      rw [if_pos hcontrol]
      obtain ⟨high, low, htext, hcode⟩ := controlEscape_eq hcontrol
      rw [htext]
      show stringItems? ('\\' :: 'u' :: '0' :: '0' :: high :: low :: s) = _
      rw [stringItems?, hcode, ← itemOfCode_toNat hcontrol]
      cases stringItems? s <;> rfl
    · rw [if_neg hcontrol]
      exact stringItems?_self hquote hescape hcontrol s

theorem stringItems?_flatMap_escapedChar (text rest : List Char) :
    stringItems? (text.flatMap escapedChar ++ '"' :: rest) =
      some (text.map StringItem.char, rest) := by
  induction text with
  | nil => rfl
  | cons c text ih =>
    rw [List.flatMap_cons, List.append_assoc, stringItems?_escapedChar, ih]
    rfl

theorem itemsText?_map_char (text : List Char) :
    itemsText? (text.map StringItem.char) = some text := by
  induction text with
  | nil => rfl
  | cons c text ih =>
    show (itemsText? (text.map StringItem.char)).map (c :: ·) = some (c :: text)
    rw [ih]
    rfl

/-- A text is read back from its quoted form. -/
theorem nextToken?_stringText (text : String) (s : List Char) :
    nextToken? (stringText text.toList ++ s) = some (.string (some text), s) := by
  have hquoted : stringText text.toList ++ s =
      '"' :: (text.toList.flatMap escapedChar ++ '"' :: s) := by
    simp [stringText]
  rw [hquoted]
  show (stringItems? _).map (fun (items, rest) =>
    (Token.string ((itemsText? items).map String.ofList), rest)) = _
  rw [stringItems?_flatMap_escapedChar]
  show some (Token.string ((itemsText? (text.toList.map StringItem.char)).map String.ofList), s) = _
  rw [itemsText?_map_char]
  show some (Token.string (some (String.ofList text.toList)), s) = _
  rw [String.ofList_toList]

/-! ## Numbers -/

/-- What starts with a minus or a digit is read as a number. -/
theorem nextToken?_of_numeric {c : Char} (hc : c = '-' ∨ c.isDigit = true) (s : List Char) :
    nextToken? (c :: s) =
      (number? (c :: s)).map fun (literal, rest) => (.number literal, rest) := by
  have hother : ∀ d, ¬ (d = '-' ∨ d.isDigit = true) → c ≠ d := by
    intro d hd heq
    exact hd (heq ▸ hc)
  unfold nextToken?
  split
  -- the brackets, marks, names and the quote
  iterate 10 (rename_i heq; exact absurd (List.cons.inj heq).1 (hother _ (by decide)))
  rfl

/-! ## Tokens -/

namespace Token

/-- The token is read back from its text before this text. -/
def ReadableBefore (s : List Char) : Token → Prop
  | number literal => literal.WellFormed ∧ EndsNumber s
  | string text => text.isSome = true
  | _ => True

variable {token : Token} {s : List Char}

theorem nextToken?_text_append (h : token.ReadableBefore s) :
    nextToken? (token.text ++ s) = some (token, s) := by
  cases token with
  | openBracket => rfl
  | closeBracket => rfl
  | openBrace => rfl
  | closeBrace => rfl
  | comma => rfl
  | colon => rfl
  | null => rfl
  | bool value => cases value <;> rfl
  | number literal =>
    obtain ⟨hliteral, hs⟩ := h
    have hread := Literal.number?_text hliteral hs
    obtain ⟨c, rest, htext, hc⟩ := Literal.exists_text_eq_cons hliteral
    show nextToken? (literal.text ++ s) = _
    rw [htext] at hread ⊢
    rw [List.cons_append] at hread ⊢
    rw [nextToken?_of_numeric hc, hread]
    rfl
  | string text =>
    obtain ⟨text, rfl⟩ := Option.isSome_iff_exists.mp h
    exact nextToken?_stringText text s

/-- No token starts with a blank. -/
theorem exists_text_eq_cons (h : token.ReadableBefore s) :
    ∃ c rest, token.text = c :: rest ∧ isSpace c = false := by
  cases token with
  | openBracket => exact ⟨_, _, rfl, rfl⟩
  | closeBracket => exact ⟨_, _, rfl, rfl⟩
  | openBrace => exact ⟨_, _, rfl, rfl⟩
  | closeBrace => exact ⟨_, _, rfl, rfl⟩
  | comma => exact ⟨_, _, rfl, rfl⟩
  | colon => exact ⟨_, _, rfl, rfl⟩
  | null => exact ⟨'n', "ull".toList, rfl, rfl⟩
  | bool value =>
    cases value with
    | true => exact ⟨'t', "rue".toList, rfl, rfl⟩
    | false => exact ⟨'f', "alse".toList, rfl, rfl⟩
  | number literal =>
    obtain ⟨c, rest, htext, hc⟩ := Literal.exists_text_eq_cons h.1
    refine ⟨c, rest, htext, ?_⟩
    rcases hc with rfl | hc
    · rfl
    · exact forall_isDigit (p := fun c => isSpace c = false) (by decide) hc
  | string text => exact ⟨'"', _, rfl, rfl⟩

/-- A token is read back, and the text after it is read as it is alone. -/
theorem tokens?_text_append (h : token.ReadableBefore s) :
    tokens? (token.text ++ s) = (tokens? s).map (token :: ·) := by
  have hread := nextToken?_text_append h
  obtain ⟨c, rest, htext, hspace⟩ := exists_text_eq_cons h
  rw [htext, List.cons_append] at hread ⊢
  rw [tokens?, if_neg (by rw [hspace]; exact Bool.false_ne_true)]
  split
  · rename_i hnone
    rw [hread] at hnone
    cases hnone
  · rename_i hsome
    rw [hread] at hsome
    cases hsome
    rfl

end Token

end ChartCatalog.Json
