import ChartCatalog.Number.Shortest
import ChartCatalog.Proofs.Number.Decimals

/-!
# Reading back the shortest decimal

`shortest` always finds a decimal that reads back (`readsBack_shortest`): the
lengths it tries are tested, and the exact expansion needs no test. Laying the
digits out with a point does not change the fraction (`decimals_positional`), so
a finite number is read back from its text (`numeral_positionalText`).
-/

namespace ChartCatalog.Number

open Text

/-! ## A decimal that reads back -/

theorem readsBack_iff {d : Decimal} {units : Nat} :
    d.readsBack units = true ↔ ∃ h : Representable units, ∀ negative,
      Binary64.ofDecimal negative d.coefficient d.exponent = .finite negative units h := by
  unfold Decimal.readsBack
  constructor
  · intro h
    split at h
    · rename_i read hread heq
      have hunits : read = units := by simpa using h
      subst hunits
      refine ⟨hread, fun negative => ?_⟩
      rw [Binary64.ofDecimal_eq_nearest] at heq ⊢
      exact Binary64.ofUnits_eq_finite (Binary64.nearestUnits_of_ofUnits heq) hread
    · exact absurd h (by decide)
  · rintro ⟨h, heq⟩
    rw [heq]
    exact beq_self_eq_true units

theorem readsBack_of_ofLength? {tie : Tie} {units length : Nat} {d : Decimal}
    (h : ofLength? tie units length = some d) : d.readsBack units = true := by
  unfold ofLength? at h
  generalize neighbours tie units (leadingExponent units + 1 - length) = pair at h
  obtain ⟨near, far⟩ := pair
  dsimp only at h
  split at h
  · cases h
    assumption
  · split at h
    · cases h
      assumption
    · exact absurd h (by simp)

theorem dvd_powerOfTen (e : Nat) : 1 <<< e ∣ powerOfTen e := by
  induction e with
  | zero => exact Nat.dvd_refl 1
  | succ e ih =>
    rw [Nat.one_shiftLeft] at ih ⊢
    rw [powerOfTen_succ, Nat.pow_succ]
    exact Nat.mul_dvd_mul ih ⟨5, rfl⟩

/-- A unit has an exact decimal expansion. -/
theorem readsBack_exactDecimal {units : Nat} (h : Representable units) :
    (exactDecimal units).readsBack units = true := by
  refine readsBack_iff.mpr ⟨h, fun negative => ?_⟩
  have hexpansion : powerOfTen 1074 / unitsPerOne * unitsPerOne = powerOfTen 1074 :=
    Nat.div_mul_cancel (dvd_powerOfTen 1074)
  rw [Binary64.ofDecimal_eq_nearest]
  refine Binary64.ofUnits_eq_finite ?_ h
  show Binary64.nearestUnits
    (units * (powerOfTen 1074 / unitsPerOne) * powerOfTen 0 * unitsPerOne) (powerOfTen 1074) = units
  rw [powerOfTen_zero, Nat.mul_one, Nat.mul_assoc, hexpansion, Nat.mul_comm]
  have hone := Binary64.nearestUnits_mul_mul (powerOfTen_pos 1074) units 1
  rw [Nat.mul_one] at hone
  exact hone.trans (Binary64.nearestUnits_one h)

theorem readsBack_shortest (tie : Tie) {units : Nat} (h : Representable units) :
    (shortest tie units).readsBack units = true := by
  unfold shortest
  cases hfound : (List.range 17).findSome? fun i => ofLength? tie units (i + 1) with
  | none => exact readsBack_exactDecimal h
  | some d =>
    obtain ⟨i, -, hi⟩ := List.exists_of_findSome?_eq_some hfound
    exact readsBack_of_ofLength? hi

/-! ## The value of digits -/

theorem powerOfTen_add (a b : Nat) : powerOfTen (a + b) = powerOfTen a * powerOfTen b :=
  Nat.pow_add 10 a b

/-- More digits make a number no smaller. -/
theorem le_ofDigitChars (s : List Char) (n : Nat) : n ≤ Nat.ofDigitChars 10 s n := by
  rw [Nat.ofDigitChars_eq_ofDigitChars_zero]
  exact Nat.le_trans (Nat.le_mul_of_pos_left n (powerOfTen_pos s.length)) (Nat.le_add_right _ _)

theorem numberOf_append (s t : List Char) :
    numberOf (s ++ t) = numberOf s * powerOfTen t.length + numberOf t := by
  unfold numberOf
  rw [Nat.ofDigitChars_append, Nat.ofDigitChars_eq_ofDigitChars_zero, Nat.mul_comm]
  rfl

theorem numberOf_zeros (n : Nat) : numberOf (List.replicate n '0') = 0 := by
  unfold numberOf
  rw [Nat.ofDigitChars_replicate_zero, Nat.mul_zero]

theorem numberOf_append_zeros (s : List Char) (n : Nat) :
    numberOf (s ++ List.replicate n '0') = numberOf s * powerOfTen n := by
  rw [numberOf_append, numberOf_zeros, List.length_replicate, Nat.add_zero]

theorem numberOf_zeros_append (n : Nat) (s : List Char) :
    numberOf (List.replicate n '0' ++ s) = numberOf s := by
  rw [numberOf_append, numberOf_zeros, Nat.zero_mul, Nat.zero_add]

theorem isDigits_digits (n : Nat) : IsDigits (digits n) := by
  intro c hc
  exact Nat.isDigit_of_mem_toDigits (by decide) (by decide) hc

theorem isDigits_zeros (n : Nat) : IsDigits (List.replicate n '0') := by
  intro c hc
  rw [List.eq_of_mem_replicate hc]
  decide

theorem numberOf_lt {s : List Char} (h : IsDigits s) : numberOf s < powerOfTen s.length := by
  induction s with
  | nil => exact Nat.one_pos
  | cons c s ih =>
    have hdigit : numberOf [c] < 10 :=
      forall_isDigit (p := fun c => numberOf [c] < 10) (by decide) (h c List.mem_cons_self)
    have hrest := ih fun d hd => h d (List.mem_cons_of_mem c hd)
    have hsplit := numberOf_append [c] s
    rw [List.singleton_append] at hsplit
    rw [hsplit, List.length_cons, powerOfTen_succ]
    have := Nat.mul_le_mul_right (powerOfTen s.length) (Nat.le_of_lt_succ hdigit)
    omega

/-! ## Layout -/

theorem dropWhile_reverse_append_zeros (s : List Char) :
    ∃ n, s = (s.reverse.dropWhile (· == '0')).reverse ++ List.replicate n '0' := by
  have hzeros : ∀ c ∈ s.reverse.takeWhile (· == '0'), c = '0' := by
    intro c hc
    exact beq_iff_eq.mp (List.all_eq_true.mp List.all_takeWhile c hc)
  have hsplit := congrArg List.reverse
    (List.takeWhile_append_dropWhile (p := (· == '0')) (l := s.reverse))
  rw [List.reverse_append, List.reverse_reverse, List.eq_replicate_of_mem hzeros,
    List.reverse_replicate] at hsplit
  exact ⟨_, hsplit.symm⟩

/-- The digits of a decimal are the significant ones and zeros after them. -/
theorem significantDigits_spec (d : Decimal) : ∃ zeros,
    d.coefficient = numberOf d.significantDigits * powerOfTen zeros ∧
      (digits d.coefficient).length = d.significantDigits.length + zeros ∧
        IsDigits d.significantDigits := by
  obtain ⟨zeros, hdigits⟩ := dropWhile_reverse_append_zeros (digits d.coefficient)
  refine ⟨zeros, ?_, ?_, fun c hc => ?_⟩
  · have hnumber := congrArg numberOf hdigits
    rwa [numberOf_digits, numberOf_append_zeros] at hnumber
  · have hlength := congrArg List.length hdigits
    rwa [List.length_append, List.length_replicate] at hlength
  · apply isDigits_digits d.coefficient
    rw [hdigits]
    exact List.mem_append_left _ hc

/-- A text with digits before the point, or without a point, whose value is that
of the decimal. -/
structure Decimal.LaidOut (d : Decimal) (s whole fraction : List Char) : Prop where
  decimals : Decimals s whole fraction
  whole_ne_nil : whole ≠ []
  value_eq : numberOf (whole ++ fraction) * powerOfTen (-d.exponent).toNat =
    d.coefficient * powerOfTen d.exponent.toNat * powerOfTen fraction.length

theorem Decimal.LaidOut.ofDecimal_eq {d : Decimal} {s w f : List Char} (h : d.LaidOut s w f)
    (negative : Bool) :
    decimalValue negative w f = Binary64.ofDecimal negative d.coefficient d.exponent := by
  rw [Binary64.ofDecimal_eq_nearest]
  exact Binary64.nearest_eq_of_mul_eq (powerOfTen_pos _) (powerOfTen_pos _) h.value_eq

theorem mul_powers_eq (n : Nat) {a b c d e : Nat} (h : a + b = c + d + e) :
    n * powerOfTen a * powerOfTen b =
      n * powerOfTen c * powerOfTen d * powerOfTen e := by
  rw [Nat.mul_assoc, ← powerOfTen_add, h, powerOfTen_add, powerOfTen_add, ← Nat.mul_assoc,
    ← Nat.mul_assoc]

/-- The layout keeps the value: the point moves over as many digits as the
exponent says. -/
theorem laidOut_positional (d : Decimal) : ∃ w f, d.LaidOut d.positional w f := by
  unfold Decimal.positional
  dsimp only
  by_cases h0 : d.coefficient = 0
  · rw [if_pos h0]
    refine ⟨['0'], [], .whole (List.cons_ne_nil _ _) (isDigits_zeros 1), List.cons_ne_nil _ _, ?_⟩
    rw [h0, Nat.zero_mul, Nat.zero_mul]
    exact Nat.zero_mul _
  rw [if_neg h0]
  obtain ⟨zeros, hvalue, hlength, hshown⟩ := significantDigits_spec d
  have hpoint : d.point = (d.significantDigits.length + zeros : Nat) + d.exponent := by
    rw [Decimal.point, hlength]
  generalize d.significantDigits = shown at hvalue hlength hshown hpoint ⊢
  have hne : shown ≠ [] := by
    rintro rfl
    exact h0 (by rw [hvalue]; exact Nat.zero_mul _)
  have hpos : 0 < shown.length := List.length_pos_iff.mpr hne
  by_cases hsmall : d.point ≤ 0
  · -- zeros stand between the point and the first digit
    rw [if_pos hsmall]
    refine ⟨['0'], List.replicate (-d.point).toNat '0' ++ shown,
      .point (List.cons_ne_nil _ _) (isDigits_zeros 1) ((isDigits_zeros _).append hshown),
      List.cons_ne_nil _ _, ?_⟩
    have hnumber : numberOf (['0'] ++ (List.replicate (-d.point).toNat '0' ++ shown)) =
        numberOf shown * powerOfTen 0 := by
      rw [show ['0'] = List.replicate 1 '0' from rfl, numberOf_zeros_append,
        numberOf_zeros_append, powerOfTen_zero, Nat.mul_one]
    rw [hnumber, hvalue, List.length_append, List.length_replicate]
    exact mul_powers_eq _ (by omega)
  rw [if_neg hsmall]
  by_cases hwhole : shown.length ≤ d.point.toNat
  · -- zeros stand between the last digit and the place of the point
    rw [if_pos hwhole]
    refine ⟨shown ++ List.replicate (d.point.toNat - shown.length) '0', [],
      .whole (by simp [hne]) (hshown.append (isDigits_zeros _)), by simp [hne], ?_⟩
    rw [List.append_nil, numberOf_append_zeros, hvalue]
    exact mul_powers_eq _ (by simp only [List.length_nil]; omega)
  · -- the point stands among the digits
    rw [if_neg hwhole]
    have htake : shown.take d.point.toNat ≠ [] := by
      intro hnil
      rcases List.take_eq_nil_iff.mp hnil with h | h
      · omega
      · exact hne h
    refine ⟨shown.take d.point.toNat, shown.drop d.point.toNat, ?_, htake, ?_⟩
    · rw [List.append_assoc]
      exact .point htake (fun c hc => hshown c (List.mem_of_mem_take hc))
        fun c hc => hshown c (List.mem_of_mem_drop hc)
    · have hnumber : numberOf shown = numberOf shown * powerOfTen 0 := by
        rw [powerOfTen_zero, Nat.mul_one]
      rw [List.take_append_drop, hnumber, hvalue, List.length_drop]
      exact mul_powers_eq _ (by omega)

/-! ## Numbers and their texts -/

/-- The text of a finite number: digits with a point, after a minus if the
number is negative. -/
theorem decimals_positionalText (negative : Bool) {units : Nat} (h : Representable units) :
    ∃ s w f, Binary64.positionalText (.finite negative units h) = signText negative ++ s ∧
      Decimals s w f ∧ w ≠ [] ∧ decimalValue negative w f = .finite negative units h := by
  obtain ⟨w, f, hlaid⟩ := laidOut_positional (shortest .up units)
  obtain ⟨_, hvalue⟩ := readsBack_iff.mp (readsBack_shortest .up h)
  refine ⟨_, w, f, rfl, hlaid.decimals, hlaid.whole_ne_nil, ?_⟩
  rw [hlaid.ofDecimal_eq, hvalue]

/-- A finite number is read back from its text. -/
theorem numeral_positionalText {x : Binary64} (h : x.isFinite = true) :
    Numeral x.positionalText x := by
  obtain ⟨negative, units, hunits, rfl⟩ := Binary64.exists_eq_finite h
  obtain ⟨s, w, f, htext, hs, -, hvalue⟩ := decimals_positionalText negative hunits
  rw [htext, ← hvalue]
  cases negative with
  | false => exact .unsigned hs
  | true => exact .minus hs

end ChartCatalog.Number
