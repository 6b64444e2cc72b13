import ChartCatalog.Json.Token
import ChartCatalog.Proofs.Number.Positional
import Mathlib.Data.List.Basic

/-!
# Number literals as text

A literal is `WellFormed` when its digits follow the grammar of JSON numbers: at
least one before the point, no zero before other digits, at least one in an
exponent. Such a literal is read back from its text wherever the text after it
cannot belong to a number (`number?_text`), and the literals that are written for
natural numbers and for ratings are well formed.
-/

namespace ChartCatalog.Json

open Number Text

/-! ## Where digits and numbers end -/

/-- Text that does not go on with a digit. -/
def EndsDigits (s : List Char) : Prop := ∀ c ∈ s.head?, c.isDigit = false

/-- Text that does not go on with a digit, a point or an exponent. -/
def EndsNumber (s : List Char) : Prop :=
  ∀ c ∈ s.head?, c.isDigit = false ∧ c ≠ '.' ∧ c ≠ 'e' ∧ c ≠ 'E'

theorem EndsNumber.endsDigits {s : List Char} (h : EndsNumber s) : EndsDigits s :=
  fun c hc => (h c hc).1

theorem endsNumber_nil : EndsNumber [] := by simp [EndsNumber]

theorem EndsDigits.takeWhile_eq {s : List Char} (h : EndsDigits s) :
    s.takeWhile Char.isDigit = [] := by
  cases s with
  | nil => rfl
  | cons c s => rw [List.takeWhile_cons, h c rfl]; rfl

theorem EndsDigits.dropWhile_eq {s : List Char} (h : EndsDigits s) :
    s.dropWhile Char.isDigit = s := by
  cases s with
  | nil => rfl
  | cons c s => rw [List.dropWhile_cons, h c rfl]; rfl

theorem digits?_append {ds s : List Char} (hdigits : IsDigits ds) (hne : ds ≠ [])
    (hend : EndsDigits s) : digits? (ds ++ s) = some (ds, s) := by
  unfold digits?
  rw [List.takeWhile_append_of_pos hdigits, List.dropWhile_append_of_pos hdigits,
    hend.takeWhile_eq, hend.dropWhile_eq, List.append_nil, if_neg hne]

namespace Literal

/-! ## Well formed literals -/

/-- A literal that the grammar of JSON numbers allows. -/
structure WellFormed (literal : Literal) : Prop where
  whole_isDigits : IsDigits literal.whole
  whole_ne_nil : literal.whole ≠ []
  whole_of_zero : literal.whole.head? = some '0' → literal.whole = ['0']
  fraction_isDigits : IsDigits literal.fraction
  exponent_isDigits : ∀ e ∈ literal.exponent, IsDigits e.2 ∧ e.2 ≠ []

variable {literal : Literal}

/-- The point and the digits after it. -/
def fractionText (fraction : List Char) : List Char :=
  if fraction = [] then [] else '.' :: fraction

theorem text_eq (literal : Literal) : literal.text = signText literal.negative ++
    (literal.whole ++ (fractionText literal.fraction ++ exponentText literal.exponent)) := by
  simp only [text, fractionText, List.append_assoc]

/-! ## Reading a literal back -/

theorem exponentDigits?_append {exponent : Option (Bool × List Char)}
    (hexponent : ∀ e ∈ exponent, IsDigits e.2 ∧ e.2 ≠ []) {s : List Char} (hs : EndsNumber s) :
    exponentDigits? (exponentText exponent ++ s) = some (exponent, s) := by
  cases exponent with
  | none =>
    cases s with
    | nil => rfl
    | cons c s =>
      obtain ⟨-, -, hsmall, hcapital⟩ := hs c rfl
      show (if c = 'e' ∨ c = 'E' then _ else some (none, c :: s)) = some (none, c :: s)
      rw [if_neg (by simp [hsmall, hcapital])]
  | some e =>
    obtain ⟨negative, ds⟩ := e
    obtain ⟨hdigits, hne⟩ := hexponent _ rfl
    have hread := digits?_append hdigits hne hs.endsDigits
    cases negative with
    | true =>
      show (digits? (ds ++ s)).map _ = _
      rw [hread]; rfl
    | false =>
      show (digits? (ds ++ s)).map _ = _
      rw [hread]; rfl

theorem endsDigits_exponentText {exponent : Option (Bool × List Char)} {s : List Char}
    (hs : EndsNumber s) : EndsDigits (exponentText exponent ++ s) := by
  cases exponent with
  | none => exact hs.endsDigits
  | some e =>
    intro c hc
    cases hc
    rfl

theorem fractionDigits?_append {fraction : List Char} (hfraction : IsDigits fraction)
    (exponent : Option (Bool × List Char)) {s : List Char} (hs : EndsNumber s) :
    fractionDigits? (fractionText fraction ++ (exponentText exponent ++ s)) =
      some (fraction, exponentText exponent ++ s) := by
  by_cases hnil : fraction = []
  · rw [hnil]
    show fractionDigits? (exponentText exponent ++ s) = some ([], exponentText exponent ++ s)
    unfold fractionDigits?
    split
    · -- no point can follow
      rename_i rest heq
      cases exponent with
      | none => exact absurd rfl (hs '.' (by rw [show s = '.' :: rest from heq]; rfl)).2.1
      | some e => cases heq
    · rfl
  · rw [fractionText, if_neg hnil]
    exact digits?_append hfraction hnil (endsDigits_exponentText hs)

theorem endsDigits_fractionText (fraction : List Char) {exponent : Option (Bool × List Char)}
    {s : List Char} (hs : EndsNumber s) :
    EndsDigits (fractionText fraction ++ (exponentText exponent ++ s)) := by
  by_cases hnil : fraction = []
  · rw [hnil]
    exact endsDigits_exponentText hs
  · rw [fractionText, if_neg hnil]
    intro c hc
    cases hc
    rfl

theorem wholeDigits?_append (h : literal.WellFormed) {s : List Char} (hs : EndsDigits s) :
    wholeDigits? (literal.whole ++ s) = some (literal.whole, s) := by
  unfold wholeDigits?
  split
  · -- a zero stands alone
    rename_i rest heq
    have hzero : literal.whole = ['0'] := by
      apply h.whole_of_zero
      rw [← List.head?_append_of_ne_nil literal.whole h.whole_ne_nil, heq]
      rfl
    rw [hzero] at heq ⊢
    cases heq
    rfl
  · exact digits?_append h.whole_isDigits h.whole_ne_nil hs

theorem unsigned?_append (h : literal.WellFormed) {s : List Char} (hs : EndsNumber s) :
    unsigned? literal.negative (literal.whole ++
      (fractionText literal.fraction ++ (exponentText literal.exponent ++ s))) =
        some (literal, s) := by
  unfold unsigned?
  rw [wholeDigits?_append h (endsDigits_fractionText _ hs)]
  show (fractionDigits? _).bind _ = _
  rw [fractionDigits?_append h.fraction_isDigits _ hs]
  show (exponentDigits? _).bind _ = _
  rw [exponentDigits?_append h.exponent_isDigits hs]
  rfl

/-- A well formed literal is read back from its text. -/
theorem number?_text (h : literal.WellFormed) {s : List Char} (hs : EndsNumber s) :
    number? (literal.text ++ s) = some (literal, s) := by
  have hread := unsigned?_append h hs
  rw [text_eq, List.append_assoc, List.append_assoc, List.append_assoc]
  cases hsign : literal.negative with
  | true =>
    rw [hsign] at hread
    exact hread
  | false =>
    rw [hsign] at hread
    show number? (literal.whole ++ _) = _
    unfold number?
    split
    · -- no digit is a minus
      rename_i rest heq
      have hhead : literal.whole.head? = some '-' := by
        rw [← List.head?_append_of_ne_nil literal.whole h.whole_ne_nil, heq]
        rfl
      have hminus : ('-').isDigit = true := h.whole_isDigits _ (List.mem_of_mem_head? hhead)
      exact absurd hminus (by decide)
    · exact hread

/-- A literal starts with a minus or a digit. -/
theorem exists_text_eq_cons (h : literal.WellFormed) :
    ∃ c rest, literal.text = c :: rest ∧ (c = '-' ∨ c.isDigit = true) := by
  rw [text_eq]
  cases literal.negative with
  | true => exact ⟨'-', _, rfl, .inl rfl⟩
  | false =>
    obtain ⟨c, whole, hwhole⟩ := List.exists_cons_of_ne_nil h.whole_ne_nil
    refine ⟨c, _, by rw [hwhole]; rfl, .inr (h.whole_isDigits c ?_)⟩
    rw [hwhole]
    exact List.mem_cons_self

/-! ## Natural numbers -/

theorem head?_digits {n : Nat} (h : n ≠ 0) : (digits n).head? ≠ some '0' := by
  induction n using Nat.strongRecOn with
  | ind n ih =>
    unfold digits at ih ⊢
    by_cases hsmall : n < 10
    · have hdigit : ∀ m : Fin 10, m.val ≠ 0 → [m.val.digitChar].head? ≠ some '0' := by decide
      rw [Nat.toDigits_of_lt_base hsmall]
      exact hdigit ⟨n, hsmall⟩ h
    · rw [Nat.toDigits_of_base_le (by decide) (by omega),
        List.head?_append_of_ne_nil _ Nat.toDigits_ne_nil]
      exact ih (n / 10) (by omega) (by omega)

theorem wellFormed_ofNat (n : Nat) : (ofNat n).WellFormed where
  whole_isDigits := isDigits_digits n
  whole_ne_nil := Nat.toDigits_ne_nil
  whole_of_zero := by
    intro hzero
    by_cases h : n = 0
    · rw [h]; rfl
    · exact absurd hzero (head?_digits h)
  fraction_isDigits := by simp [ofNat, IsDigits]
  exponent_isDigits := by simp [ofNat]

/-- A natural number is read back from its literal. -/
theorem toNat?_ofNat (n : Nat) : (ofNat n).toNat? = some n := by
  show some (numberOf (digits n)) = some n
  rw [numberOf_digits]

/-! ## Ratings -/

/-- The digits of a decimal that is not zero start with another digit. -/
theorem significantDigits_head {d : Decimal} (h : d.coefficient ≠ 0) :
    d.significantDigits ≠ [] ∧ d.significantDigits.head? ≠ some '0' := by
  have hne : d.significantDigits ≠ [] := by
    intro hnil
    obtain ⟨zeros, hvalue, -⟩ := significantDigits_spec d
    rw [hnil] at hvalue
    exact h (by rw [hvalue]; exact Nat.zero_mul _)
  refine ⟨hne, ?_⟩
  obtain ⟨zeros, hdigits⟩ := dropWhile_reverse_append_zeros (digits d.coefficient)
  have hhead := head?_digits h
  rw [hdigits] at hhead
  change (d.significantDigits ++ List.replicate zeros '0').head? ≠ some '0' at hhead
  rwa [List.head?_append_of_ne_nil _ hne] at hhead

/-- The decimal of a number that is not zero is not zero. -/
theorem coefficient_shortest_ne_zero (tie : Tie) {units : Nat} (h : Representable units)
    (hunits : units ≠ 0) : (shortest tie units).coefficient ≠ 0 := by
  intro hzero
  obtain ⟨_, hvalue⟩ := readsBack_iff.mp (readsBack_shortest tie h)
  have hread := hvalue false
  rw [hzero] at hread
  cases hread
  exact hunits rfl

/-- The three places of the point: before the digits, behind them and among them. -/
theorem plain_cases (negative : Bool) (d : Decimal) :
    (d.point ≤ 0 ∧ plain negative d =
      ⟨negative, ['0'], List.replicate (-d.point).toNat '0' ++ d.significantDigits, none⟩) ∨
    (0 < d.point ∧ d.significantDigits.length ≤ d.point.toNat ∧ plain negative d =
      ⟨negative, d.significantDigits ++
        List.replicate (d.point.toNat - d.significantDigits.length) '0', ['0'], none⟩) ∨
    (0 < d.point ∧ d.point.toNat < d.significantDigits.length ∧ plain negative d =
      ⟨negative, d.significantDigits.take d.point.toNat,
        d.significantDigits.drop d.point.toNat, none⟩) := by
  unfold plain
  dsimp only
  by_cases hsmall : d.point ≤ 0
  · exact .inl ⟨hsmall, if_pos hsmall⟩
  rw [if_neg hsmall]
  by_cases hlarge : d.significantDigits.length ≤ d.point.toNat
  · exact .inr (.inl ⟨Int.not_le.mp hsmall, hlarge, if_pos hlarge⟩)
  · exact .inr (.inr ⟨Int.not_le.mp hsmall, Nat.not_le.mp hlarge, if_neg hlarge⟩)

theorem wellFormed_plain (negative : Bool) {d : Decimal} (h : d.coefficient ≠ 0) :
    (plain negative d).WellFormed := by
  obtain ⟨hne, hhead⟩ := significantDigits_head h
  obtain ⟨_, -, -, hdigits⟩ := significantDigits_spec d
  rcases plain_cases negative d with ⟨-, hplain⟩ | ⟨-, -, hplain⟩ | ⟨hpoint, -, hplain⟩ <;>
    rw [hplain]
  · exact ⟨isDigits_zeros 1, List.cons_ne_nil _ _, fun _ => rfl,
      (isDigits_zeros _).append hdigits, by simp⟩
  · -- the zeros follow the digits
    refine ⟨hdigits.append (isDigits_zeros _), by simp [hne], ?_, isDigits_zeros 1, by simp⟩
    intro hzero
    rw [List.head?_append_of_ne_nil _ hne] at hzero
    exact absurd hzero hhead
  · have hpoint : d.point.toNat ≠ 0 := by omega
    refine ⟨fun c hc => hdigits c (List.mem_of_mem_take hc), by simp [hne, hpoint], ?_,
      fun c hc => hdigits c (List.mem_of_mem_drop hc), by simp⟩
    intro hzero
    rw [List.head?_take, if_neg hpoint] at hzero
    exact absurd hzero hhead

theorem wellFormed_scientific (negative : Bool) {d : Decimal} (h : d.coefficient ≠ 0) :
    (scientific negative d).WellFormed := by
  obtain ⟨hne, hhead⟩ := significantDigits_head h
  obtain ⟨_, -, -, hdigits⟩ := significantDigits_spec d
  unfold scientific
  dsimp only
  generalize d.significantDigits = shown at hne hhead hdigits ⊢
  refine ⟨fun c hc => hdigits c (List.mem_of_mem_take hc), by simp [hne], ?_,
    fun c hc => hdigits c (List.mem_of_mem_drop hc), ?_⟩
  · intro hzero
    rw [List.head?_take, if_neg Nat.one_ne_zero] at hzero
    exact absurd hzero hhead
  · intro e he
    cases he
    exact ⟨isDigits_digits _, Nat.toDigits_ne_nil⟩

/-- The literal of a finite number is well formed. -/
theorem wellFormed_ofFinite (negative : Bool) {units : Nat} (h : Representable units) :
    (ofFinite negative units).WellFormed := by
  unfold ofFinite
  by_cases hzero : units = 0
  · rw [if_pos hzero]
    exact ⟨isDigits_zeros 1, List.cons_ne_nil _ _, fun _ => rfl, isDigits_zeros 1, by simp⟩
  · rw [if_neg hzero]
    have hcoefficient := coefficient_shortest_ne_zero .toEven h hzero
    dsimp only
    split
    · exact wellFormed_plain negative hcoefficient
    · exact wellFormed_scientific negative hcoefficient

end Literal

end ChartCatalog.Json
