import ChartCatalog.Number.Numeral
import ChartCatalog.Proofs.Number.Nearest
import ChartCatalog.Proofs.Text.CharClass

/-!
# Numerals without an exponent

`Decimals text whole fraction` lists the three ways to write digits with at most
one point, and `Numeral` puts a sign in front. Reading rounds the fraction that
is written (`Numeral.ofText?_eq`), and every text that is read as a finite
number is a numeral of this kind or one with an exponent, which has a letter in
it and ends in a digit (`numeral_of_ofText?`).
-/

namespace ChartCatalog.Number

open Text

/-! ## Digits with a point -/

/-- A text, the digits before the point, and the digits after it. -/
inductive Decimals : List Char → List Char → List Char → Prop
  | whole {w : List Char} : w ≠ [] → IsDigits w → Decimals w w []
  | point {w f : List Char} : w ≠ [] → IsDigits w → IsDigits f → Decimals (w ++ '.' :: f) w f
  | leading {f : List Char} : f ≠ [] → IsDigits f → Decimals ('.' :: f) [] f

namespace Decimals

variable {s w f : List Char}

theorem ne_nil (h : Decimals s w f) : s ≠ [] := by
  cases h with
  | whole hne _ => exact hne
  | point _ _ _ => simp
  | leading _ _ => simp

theorem mem_iff (h : Decimals s w f) {c : Char} (hc : c ∈ s) : c.isDigit = true ∨ c = '.' := by
  cases h with
  | whole _ hw => exact .inl (hw c hc)
  | point _ hw hf =>
    rcases List.mem_append.mp hc with hc | hc
    · exact .inl (hw c hc)
    · rcases List.mem_cons.mp hc with rfl | hc
      · exact .inr rfl
      · exact .inl (hf c hc)
  | leading _ hf =>
    rcases List.mem_cons.mp hc with rfl | hc
    · exact .inr rfl
    · exact .inl (hf c hc)

/-- There is a digit in it. -/
theorem exists_digit (h : Decimals s w f) : ∃ c ∈ s, c.isDigit = true := by
  have hfirst : ∀ {t : List Char}, t ≠ [] → IsDigits t → ∃ c ∈ t, c.isDigit = true := by
    intro t hne ht
    obtain ⟨c, hc⟩ := List.exists_mem_of_ne_nil t hne
    exact ⟨c, hc, ht c hc⟩
  cases h with
  | whole hne hw => exact hfirst hne hw
  | point hne hw _ =>
    obtain ⟨c, hc, hd⟩ := hfirst hne hw
    exact ⟨c, List.mem_append_left _ hc, hd⟩
  | leading hne hf =>
    obtain ⟨c, hc, hd⟩ := hfirst hne hf
    exact ⟨c, List.mem_cons_of_mem _ hc, hd⟩

theorem splitSign_eq (h : Decimals s w f) : splitSign s = (false, s) := by
  cases s with
  | nil => exact absurd rfl h.ne_nil
  | cons c s =>
    have hc := h.mem_iff List.mem_cons_self
    unfold splitSign
    split
    · rename_i heq
      rw [(List.cons.inj heq).1] at hc
      exact absurd hc (by decide)
    · rename_i heq
      rw [(List.cons.inj heq).1] at hc
      exact absurd hc (by decide)
    · rfl

end Decimals

/-- The number nearest to what the digits denote. -/
def decimalValue (negative : Bool) (w f : List Char) : Binary64 :=
  .nearest negative (numberOf (w ++ f)) (powerOfTen f.length)

theorem ofDecimal_neg_length (negative : Bool) (w f : List Char) :
    Binary64.ofDecimal negative (numberOf (w ++ f)) (0 - f.length) = decimalValue negative w f := by
  rw [Binary64.ofDecimal_eq_nearest, show ((0 : Int) - f.length).toNat = 0 by omega,
    show (-((0 : Int) - f.length)).toNat = f.length by omega, powerOfTen_zero, Nat.mul_one]
  rfl

theorem leadingDigits_append {w : List Char} (hw : IsDigits w) (s : List Char) :
    leadingDigits (w ++ s) = w ++ leadingDigits s :=
  List.takeWhile_append_of_pos hw

theorem afterDigits_append {w : List Char} (hw : IsDigits w) (s : List Char) :
    afterDigits (w ++ s) = afterDigits s :=
  List.dropWhile_append_of_pos hw

theorem leadingDigits_of_isDigits {w : List Char} (hw : IsDigits w) : leadingDigits w = w := by
  have h := leadingDigits_append hw []
  rw [List.append_nil] at h
  exact h.trans (List.append_nil w)

theorem afterDigits_of_isDigits {w : List Char} (hw : IsDigits w) : afterDigits w = [] := by
  have h := afterDigits_append hw []
  rwa [List.append_nil] at h

theorem isDigits_leadingDigits (s : List Char) : IsDigits (leadingDigits s) :=
  List.all_eq_true.mp List.all_takeWhile

namespace Decimals

variable {s w f : List Char}

/-- The digits before the point and those after it are found where the reader looks for
them, and nothing is left over. -/
theorem parts_eq (h : Decimals s w f) :
    leadingDigits s = w ∧ splitFraction (afterDigits s) = (f, []) := by
  cases h with
  | whole _ hw =>
    rw [leadingDigits_of_isDigits hw, afterDigits_of_isDigits hw]
    exact ⟨rfl, rfl⟩
  | point _ hw hf =>
    have hlead : leadingDigits (w ++ '.' :: f) = w := by
      rw [leadingDigits_append hw]
      exact List.append_nil w
    have hafter : afterDigits (w ++ '.' :: f) = '.' :: f := afterDigits_append hw _
    rw [hlead, hafter, splitFraction, leadingDigits_of_isDigits hf, afterDigits_of_isDigits hf]
    exact ⟨rfl, rfl⟩
  | leading _ hf =>
    have hafter : afterDigits ('.' :: f) = '.' :: f := rfl
    rw [hafter, splitFraction, leadingDigits_of_isDigits hf, afterDigits_of_isDigits hf]
    exact ⟨rfl, rfl⟩

theorem parts_ne_nil (h : Decimals s w f) : ¬ (w = [] ∧ f = []) := by
  cases h with
  | whole hne _ => exact fun hnil => hne hnil.1
  | point hne _ _ => exact fun hnil => hne hnil.1
  | leading hne _ => exact fun hnil => hne hnil.2

/-- A text has one reading as digits with a point. -/
theorem unique {w' f' : List Char} (h : Decimals s w f) (h' : Decimals s w' f') :
    w = w' ∧ f = f' := by
  obtain ⟨hwhole, hfraction⟩ := h.parts_eq
  obtain ⟨hwhole', hfraction'⟩ := h'.parts_eq
  exact ⟨hwhole.symm.trans hwhole', congrArg Prod.fst (hfraction.symm.trans hfraction')⟩

/-- Digits with a point are read as the number nearest to them. -/
theorem ofDigits?_eq (h : Decimals s w f) (negative : Bool) :
    ofDigits? negative s = some (decimalValue negative w f) := by
  obtain ⟨hwhole, hfraction⟩ := h.parts_eq
  unfold ofDigits?
  simp only [hwhole, hfraction, h.parts_ne_nil, if_false, exponent?, Option.map_some]
  rw [ofDecimal_neg_length]

end Decimals

/-! ## Numerals -/

/-- Digits with a point and a sign in front, and the number nearest to what is
written. -/
inductive Numeral : List Char → Binary64 → Prop
  | unsigned {s w f : List Char} : Decimals s w f → Numeral s (decimalValue false w f)
  | plus {s w f : List Char} : Decimals s w f → Numeral ('+' :: s) (decimalValue false w f)
  | minus {s w f : List Char} : Decimals s w f → Numeral ('-' :: s) (decimalValue true w f)

theorem Numeral.ofText?_eq {s : List Char} {x : Binary64} (h : Numeral s x) :
    Binary64.ofText? s = some x := by
  unfold Binary64.ofText?
  cases h with
  | unsigned h => simp only [h.splitSign_eq, h.ofDigits?_eq, Option.some_or]
  | plus h => simp only [splitSign, h.ofDigits?_eq, Option.some_or]
  | minus h => simp only [splitSign, h.ofDigits?_eq, Option.some_or]

theorem Numeral.exists_digit {s : List Char} {x : Binary64} (h : Numeral s x) :
    ∃ c ∈ s, c.isDigit = true := by
  cases h with
  | unsigned hs => exact hs.exists_digit
  | plus hs =>
    obtain ⟨c, hc, hdigit⟩ := hs.exists_digit
    exact ⟨c, List.mem_cons_of_mem _ hc, hdigit⟩
  | minus hs =>
    obtain ⟨c, hc, hdigit⟩ := hs.exists_digit
    exact ⟨c, List.mem_cons_of_mem _ hc, hdigit⟩

/-! ## What is read -/

theorem splitSign_cases (s : List Char) :
    (splitSign s = (false, s)) ∨
      (∃ t, s = '+' :: t ∧ splitSign s = (false, t)) ∨
        ∃ t, s = '-' :: t ∧ splitSign s = (true, t) := by
  unfold splitSign
  split
  · exact .inr (.inl ⟨_, rfl, rfl⟩)
  · exact .inr (.inr ⟨_, rfl, rfl⟩)
  · exact .inl rfl

theorem getLast?_of_wholeNumber? {s : List Char} {n : Nat} (h : wholeNumber? s = some n) :
    ∃ d ∈ s.getLast?, d.isDigit = true := by
  unfold wholeNumber? at h
  split at h
  · rename_i hs
    have hlast := List.getLast?_eq_some_getLast hs.1
    exact ⟨s.getLast hs.1, hlast, isDigits_iff_all.mpr hs.2 _ (List.getLast_mem hs.1)⟩
  · exact absurd h (by simp)

/-- An exponent has a letter in front and ends in a digit. -/
def IsExponent (s : List Char) : Prop :=
  (∃ c ∈ s, c = 'e' ∨ c = 'E') ∧ ∃ d ∈ s.getLast?, d.isDigit = true

theorem IsExponent.append_left {s : List Char} (h : IsExponent s) (t : List Char) :
    IsExponent (t ++ s) := by
  obtain ⟨⟨c, hc, hletter⟩, d, hd, hdigit⟩ := h
  refine ⟨⟨c, List.mem_append_right _ hc, hletter⟩, d, ?_, hdigit⟩
  have hd' : s.getLast? = some d := hd
  rw [List.getLast?_append, hd']
  rfl

theorem exponent?_cases {s : List Char} {e : Int} (h : exponent? s = some e) :
    s = [] ∧ e = 0 ∨ IsExponent s := by
  cases s with
  | nil => exact .inl ⟨rfl, (Option.some.inj h).symm⟩
  | cons c s =>
    right
    rw [exponent?] at h
    split at h
    · rename_i hletter
      obtain ⟨_, hbody, -⟩ := Option.map_eq_some_iff.mp h
      obtain ⟨n, hn, -⟩ := Option.bind_eq_some_iff.mp hbody
      obtain ⟨d, hd, hdigit⟩ := getLast?_of_wholeNumber? hn
      refine ⟨⟨c, List.mem_cons_self, hletter⟩, d, ?_, hdigit⟩
      have hd' : (splitSign s).2.getLast? = some d := hd
      have hs : s.getLast? = some d := by
        rcases splitSign_cases s with hs | ⟨t, rfl, hs⟩ | ⟨t, rfl, hs⟩ <;> rw [hs] at hd'
        · exact hd'
        · rw [List.getLast?_cons, hd']
          rfl
        · rw [List.getLast?_cons, hd']
          rfl
      show (c :: s).getLast? = some d
      rw [List.getLast?_cons, hs]
      rfl
    · exact absurd h (by simp)

/-- The digits before and after a point that is there or not. -/
theorem decimals_of_split {s t : List Char} (hw : IsDigits s) (ht : IsDigits t)
    (hne : ¬ (s = [] ∧ t = [])) : Decimals (s ++ '.' :: t) s t := by
  by_cases hs : s = []
  · subst hs
    exact .leading (fun h => hne ⟨rfl, h⟩) ht
  · exact .point hs hw ht

theorem decimals_of_ofDigits? {negative : Bool} {s : List Char} {x : Binary64}
    (h : ofDigits? negative s = some x) :
    (∃ w f, Decimals s w f ∧ x = decimalValue negative w f) ∨ IsExponent s := by
  have hs : leadingDigits s ++ afterDigits s = s := List.takeWhile_append_dropWhile
  have hw := isDigits_leadingDigits s
  unfold ofDigits? at h
  generalize hfraction : splitFraction (afterDigits s) = parts at h
  obtain ⟨f, rest⟩ := parts
  dsimp only at h
  split at h
  · exact absurd h (by simp)
  · rename_i hne
    obtain ⟨e, he, rfl⟩ := Option.map_eq_some_iff.mp h
    -- either the rest is an exponent, or the value is that of the digits alone
    rcases exponent?_cases he with ⟨rfl, rfl⟩ | hexp
    · left
      refine ⟨leadingDigits s, f, ?_, ofDecimal_neg_length _ _ _⟩
      unfold splitFraction at hfraction
      split at hfraction
      · rename_i t ht
        obtain ⟨rfl, hrest⟩ := Prod.mk.inj hfraction
        have ht' : leadingDigits t ++ afterDigits t = t := List.takeWhile_append_dropWhile
        rw [hrest, List.append_nil] at ht'
        have hdecimals := decimals_of_split hw (isDigits_leadingDigits t) hne
        rwa [ht', ← ht, hs, ← ht'] at hdecimals
      · obtain ⟨rfl, hrest⟩ := Prod.mk.inj hfraction
        rw [hrest, List.append_nil] at hs
        have hne' : leadingDigits s ≠ [] := fun h0 => hne ⟨h0, rfl⟩
        have hdecimals := Decimals.whole hne' hw
        rwa [hs] at hdecimals ⊢
    · right
      unfold splitFraction at hfraction
      split at hfraction
      · rename_i t ht
        obtain ⟨-, rfl⟩ := Prod.mk.inj hfraction
        have ht' : leadingDigits t ++ afterDigits t = t := List.takeWhile_append_dropWhile
        rw [← hs, ht, ← ht']
        exact (hexp.append_left ('.' :: leadingDigits t)).append_left _
      · obtain ⟨-, rfl⟩ := Prod.mk.inj hfraction
        rw [← hs]
        exact hexp.append_left _

theorem isFinite_of_ofName? {negative : Bool} {s : List Char} {x : Binary64}
    (h : ofName? negative s = some x) : x.isFinite = false := by
  unfold ofName? at h
  dsimp only at h
  split at h
  · cases h
    rfl
  · split at h
    · cases h
      rfl
    · exact absurd h (by simp)

/-- A text that is read as a finite number is a numeral, or it has an exponent. -/
theorem numeral_of_ofText? {s : List Char} {x : Binary64} (h : Binary64.ofText? s = some x)
    (hfinite : x.isFinite = true) : Numeral s x ∨ IsExponent s := by
  unfold Binary64.ofText? at h
  have hdigits : ofDigits? (splitSign s).1 (splitSign s).2 = some x := by
    rcases Option.or_eq_some_iff.mp h with h | ⟨-, h⟩
    · exact h
    · rw [isFinite_of_ofName? h] at hfinite
      exact absurd hfinite (by decide)
  rcases splitSign_cases s with hs | ⟨t, rfl, hs⟩ | ⟨t, rfl, hs⟩ <;> rw [hs] at hdigits
  · rcases decimals_of_ofDigits? hdigits with ⟨w, f, hd, rfl⟩ | hexp
    · exact .inl (.unsigned hd)
    · exact .inr hexp
  · rcases decimals_of_ofDigits? hdigits with ⟨w, f, hd, rfl⟩ | hexp
    · exact .inl (.plus hd)
    · exact .inr (hexp.append_left ['+'])
  · rcases decimals_of_ofDigits? hdigits with ⟨w, f, hd, rfl⟩ | hexp
    · exact .inl (.minus hd)
    · exact .inr (hexp.append_left ['-'])

end ChartCatalog.Number
