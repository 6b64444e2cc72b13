import ChartCatalog.Proofs.Text.CharClass
import ChartCatalog.Text.Split

/-!
# The case of ASCII letters

Whatever is asked of a character in order to read a filter (is it a blank, a comma, a
letter with case, what is its small letter) is answered alike for an ASCII letter in
either case. So the case of ASCII letters changes neither the lower case of a text
(`lowerCase_asciiLower`), not even of a capital sigma next to such a letter, nor where
the text is cut into clauses (`splitOn_asciiLower`).
-/

namespace ChartCatalog.Text

/-- What holds of the ASCII capitals and their small letters, and of every character
and itself, holds of every character and its ASCII small letter. -/
theorem forall_toLower {p : Char → Char → Prop}
    (hletter : ∀ n : Fin 26, p (Char.ofNat (65 + n.val)) (Char.ofNat (97 + n.val)))
    (hsame : ∀ c, p c c) (c : Char) : p c c.toLower := by
  cases hc : c.isUpper with
  | false =>
    rw [toLower_of_not_isUpper hc]
    exact hsame c
  | true =>
    have hrange : 65 ≤ c.toNat ∧ c.toNat ≤ 90 := by
      have hnot : ¬ (c.toNat < 0x41 ∨ 0x5A < c.toNat) := by
        rw [← isUpper_eq_false_iff, hc]
        decide
      omega
    have hpair := hletter ⟨c.toNat - 65, by omega⟩
    have hsmall : ∀ n : Fin 26, (Char.ofNat (65 + n.val)).toLower = Char.ofNat (97 + n.val) := by
      decide
    rw [← hsmall] at hpair
    have hsum : 65 + (c.toNat - 65) = c.toNat := by omega
    rwa [show (65 + (⟨c.toNat - 65, by omega⟩ : Fin 26).val) = c.toNat from hsum,
      Char.ofNat_toNat] at hpair

/-! ## Classes of characters -/

theorem isBlank_toLower (c : Char) : isBlank c.toLower = isBlank c :=
  forall_toLower (p := fun c d => isBlank d = isBlank c) (by decide) (fun _ => rfl) c

theorem isCased_toLower (c : Char) : isCased c.toLower = isCased c :=
  forall_toLower (p := fun c d => isCased d = isCased c) (by decide +kernel) (fun _ => rfl) c

theorem isCaseIgnorable_toLower (c : Char) : isCaseIgnorable c.toLower = isCaseIgnorable c :=
  forall_toLower (p := fun c d => isCaseIgnorable d = isCaseIgnorable c) (by decide +kernel)
    (fun _ => rfl) c

theorem lowerChar_toLower (c : Char) : lowerChar c.toLower = lowerChar c :=
  forall_toLower (p := fun c d => lowerChar d = lowerChar c) (by decide +kernel) (fun _ => rfl) c

theorem toLower_eq_iff {d : Char} (hd : ∀ n : Fin 26,
    d ≠ Char.ofNat (65 + n.val) ∧ d ≠ Char.ofNat (97 + n.val)) (c : Char) :
    c.toLower = d ↔ c = d :=
  forall_toLower (p := fun c c' => c' = d ↔ c = d)
    (fun n => iff_of_false (hd n).2.symm (hd n).1.symm) (fun _ => Iff.rfl) c

/-! ## Lower case -/

theorem startsCased_asciiLower (s : List Char) : startsCased (asciiLower s) = startsCased s := by
  unfold startsCased asciiLower
  rw [List.dropWhile_map]
  have hsame : isCaseIgnorable ∘ Char.toLower = isCaseIgnorable :=
    funext isCaseIgnorable_toLower
  rw [hsame]
  cases s.dropWhile isCaseIgnorable with
  | nil => rfl
  | cons c s => exact isCased_toLower c

theorem lowerFrom_asciiLower (afterCased : Bool) (s : List Char) :
    lowerFrom afterCased (asciiLower s) = lowerFrom afterCased s := by
  induction s generalizing afterCased with
  | nil => rfl
  | cons c s ih =>
    have hsigma : (c.toLower = 'Σ') = (c = 'Σ') := propext (toLower_eq_iff (by decide) c)
    have htail := startsCased_asciiLower s
    unfold asciiLower at ih htail ⊢
    simp only [List.map_cons, lowerFrom, hsigma, htail, lowerChar_toLower,
      isCaseIgnorable_toLower, isCased_toLower, ih]

/-- The case of ASCII letters does not matter to the lower case. -/
theorem lowerCase_asciiLower (s : List Char) : lowerCase (asciiLower s) = lowerCase s :=
  lowerFrom_asciiLower false s

theorem isBlankText_asciiLower (s : List Char) : isBlankText (asciiLower s) = isBlankText s := by
  unfold isBlankText asciiLower
  rw [List.all_map]
  exact congrArg s.all (funext isBlank_toLower)

/-! ## Clauses -/

/-- A separator that is no letter stands where it stood. -/
theorem splitOn_asciiLower {separator : Char} (hseparator : ∀ n : Fin 26,
    separator ≠ Char.ofNat (65 + n.val) ∧ separator ≠ Char.ofNat (97 + n.val)) (s : List Char) :
    splitOn separator (asciiLower s) = (splitOn separator s).map asciiLower := by
  unfold splitOn
  induction s with
  | nil => rfl
  | cons c s ih =>
    have hc : (c.toLower == separator) = (c == separator) := by
      rw [Bool.eq_iff_iff, beq_iff_eq, beq_iff_eq]
      exact toLower_eq_iff hseparator c
    unfold asciiLower at ih ⊢
    rw [List.map_cons, splitWhere, splitWhere, hc, ih]
    cases splitWhere (· == separator) s with
    | nil => split <;> rfl
    | cons part parts => split <;> rfl

end ChartCatalog.Text
