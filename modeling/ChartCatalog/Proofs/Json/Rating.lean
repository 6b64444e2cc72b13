import ChartCatalog.Proofs.Json.Record
import ChartCatalog.Proofs.Number.Scaled

/-!
# Ratings of few digits

Numbers in records are read by scaling, so a number need not be read back from the
literal that is written for it. It is if its shortest decimal has at most fifteen
digits and lies near one (`rereads_of_isShort`): the digits of the literal then fit a
significand, and they are divided by a power of ten that is not rounded.
-/

namespace ChartCatalog

namespace Number

/-- At most fifteen significant digits, not far from the point. -/
structure Decimal.IsShort (d : Decimal) : Prop where
  length_le : d.significantDigits.length ≤ 15
  le_point : -4 ≤ d.point
  point_le : d.point ≤ 14

/-- A finite number of few digits. -/
inductive Binary64.IsShort : Binary64 → Prop
  | finite (negative : Bool) (units : Nat) (h : Representable units) :
    (shortest .toEven units).IsShort → IsShort (finite negative units h)

end Number

namespace Json

open Number Text

namespace Literal

/-! ## Digits that fit -/

theorem continueSignificand_eq {significand : Nat} {s : List Char}
    (h : Nat.ofDigitChars 10 s significand < significandLimit) :
    continueSignificand significand s = (Nat.ofDigitChars 10 s significand, []) := by
  induction s generalizing significand with
  | nil => rfl
  | cons c s ih =>
    have hnext : Nat.ofDigitChars 10 (c :: s) significand =
        Nat.ofDigitChars 10 s (Nat.ofDigitChars 10 [c] significand) :=
      Nat.ofDigitChars_append (l := [c]) significand
    rw [hnext] at h ⊢
    have hfits := Nat.lt_of_le_of_lt (le_ofDigitChars s _) h
    unfold continueSignificand
    dsimp only
    rw [if_pos hfits, ih h]

/-- Without an exponent, digits that fit are a significand and the places after the
point its exponent. -/
theorem toBinary64?_eq {literal : Literal} (hexponent : literal.exponent = none)
    (h : numberOf (literal.whole ++ literal.fraction) < significandLimit) :
    literal.toBinary64? = Binary64.scaled? literal.negative
      (numberOf (literal.whole ++ literal.fraction)) (0 - literal.fraction.length) := by
  unfold numberOf at h ⊢
  rw [Nat.ofDigitChars_append] at h ⊢
  have hwhole := Nat.lt_of_le_of_lt (le_ofDigitChars literal.fraction _) h
  unfold toBinary64?
  rw [continueSignificand_eq hwhole]
  dsimp only
  rw [continueSignificand_eq h, hexponent]
  simp [exponentValue]

/-! ## Plain literals -/

/-- The digits of a plain literal are the significant ones with zeros after them that
come from the place of the point. -/
theorem plain_spec (negative : Bool) {d : Decimal} (hshort : d.IsShort)
    (hne : d.significantDigits ≠ []) : ∃ zeros,
      numberOf ((plain negative d).whole ++ (plain negative d).fraction) =
          numberOf d.significantDigits * powerOfTen zeros ∧
        d.significantDigits.length + zeros ≤ 15 ∧
        (zeros : Int) = d.point - d.significantDigits.length + (plain negative d).fraction.length ∧
        (plain negative d).fraction.length ≤ exactPower := by
  obtain ⟨hlength, hlow, hhigh⟩ := hshort
  have hpos := List.length_pos_iff.mpr hne
  have hexact : 19 ≤ exactPower := by decide
  rcases plain_cases negative d with ⟨hpoint, hplain⟩ | ⟨hpoint, hlarge, hplain⟩ |
      ⟨hpoint, hlarge, hplain⟩ <;> rw [hplain]
  · refine ⟨0, ?_, hlength, ?_, ?_⟩
    · rw [show ['0'] = List.replicate 1 '0' from rfl, numberOf_zeros_append,
        numberOf_zeros_append, powerOfTen_zero, Nat.mul_one]
    · simp only [List.length_append, List.length_replicate]
      omega
    · simp only [List.length_append, List.length_replicate]
      omega
  · -- one zero more stands after the point
    refine ⟨d.point.toNat - d.significantDigits.length + 1, ?_, ?_, ?_, by simp; omega⟩
    · rw [List.append_assoc, show ['0'] = List.replicate 1 '0' from rfl,
        List.replicate_append_replicate, numberOf_append_zeros]
    · omega
    · simp only [List.length_singleton]
      omega
  · refine ⟨0, ?_, hlength, ?_, ?_⟩
    · rw [List.take_append_drop, powerOfTen_zero, Nat.mul_one]
    · simp only [List.length_drop]
      omega
    · simp only [List.length_drop]
      omega

/-- A plain literal of few digits is read as the number that its decimal denotes. -/
theorem toBinary64?_plain {negative : Bool} {d : Decimal} (hshort : d.IsShort)
    (hne : d.significantDigits ≠ []) {units : Nat} {h : Representable units}
    (hread : Binary64.ofDecimal negative d.coefficient d.exponent = .finite negative units h) :
    (plain negative d).toBinary64? = some (.finite negative units h) := by
  obtain ⟨zeros, hnumber, hfits, hzeros, hplaces⟩ := plain_spec negative hshort hne
  obtain ⟨trailing, hvalue, hdigits, hshown⟩ := significantDigits_spec d
  have hpoint : d.point = (d.significantDigits.length + trailing : Nat) + d.exponent := by
    rw [Decimal.point, hdigits]
  have hparts : (plain negative d).negative = negative ∧ (plain negative d).exponent = none := by
    rcases plain_cases negative d with ⟨-, hplain⟩ | ⟨-, -, hplain⟩ | ⟨-, -, hplain⟩ <;>
      rw [hplain] <;> exact ⟨rfl, rfl⟩
  have hlt : numberOf ((plain negative d).whole ++ (plain negative d).fraction) <
      powerOfTen 15 := by
    calc numberOf ((plain negative d).whole ++ (plain negative d).fraction)
        = numberOf d.significantDigits * powerOfTen zeros := hnumber
      _ < powerOfTen d.significantDigits.length * powerOfTen zeros :=
          Nat.mul_lt_mul_of_pos_right (numberOf_lt hshown) (powerOfTen_pos zeros)
      _ = powerOfTen (d.significantDigits.length + zeros) := (powerOfTen_add _ _).symm
      _ ≤ powerOfTen 15 := Nat.pow_le_pow_right (by decide) hfits
  have hdecimal : Binary64.ofDecimal negative
      (numberOf ((plain negative d).whole ++ (plain negative d).fraction))
      (0 - (plain negative d).fraction.length) = .finite negative units h := by
    rw [← hread, ofDecimal_neg_length, Binary64.ofDecimal_eq_nearest]
    refine Binary64.nearest_eq_of_mul_eq (powerOfTen_pos _) (powerOfTen_pos _) ?_
    rw [hnumber, hvalue]
    exact mul_powers_eq _ (by omega)
  rw [toBinary64?_eq hparts.2 (Nat.lt_trans hlt (by decide)), hparts.1]
  exact Binary64.scaled?_eq_of_exact (Nat.lt_trans hlt (by decide)) (by omega) hdecimal

end Literal

/-- A number of few digits is read back from its literal. -/
theorem rereads_of_isShort {x : Binary64} (hx : x.IsShort) : Rereads x := by
  intro _
  obtain ⟨negative, units, h, hshort⟩ := hx
  show (Literal.ofFinite negative units).toBinary64? = some (.finite negative units h)
  unfold Literal.ofFinite
  by_cases hzero : units = 0
  · subst hzero
    have hsmall : numberOf ['0', '0'] < 1 <<< 53 := by decide
    have hplaces : (0 - (['0'].length : Int)).natAbs ≤ exactPower := by decide
    rw [if_pos rfl, Literal.toBinary64?_eq rfl (Nat.lt_trans hsmall (by decide))]
    exact Binary64.scaled?_eq_of_exact hsmall hplaces rfl
  · rw [if_neg hzero]
    have hne := (Literal.significantDigits_head
      (Literal.coefficient_shortest_ne_zero .toEven h hzero)).1
    obtain ⟨_, hread⟩ := readsBack_iff.mp (readsBack_shortest .toEven h)
    have hplain : -4 ≤ (shortest .toEven units).point ∧ (shortest .toEven units).point ≤ 16 :=
      ⟨hshort.le_point, Int.le_trans hshort.point_le (by decide)⟩
    dsimp only
    rw [if_pos hplain]
    exact Literal.toBinary64?_plain hshort hne (hread negative)

end Json

end ChartCatalog
