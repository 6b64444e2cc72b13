import ChartCatalog.Proofs.Number.Positional
import ChartCatalog.Rating
import Mathlib.Tactic.Ring

/-!
# The text of a rating

A rating is shown by its millionths, a whole number, as digits with at most one
point (`decimals_millionthsText`). Reading them gives the binary number nearest to
the millionths. That number need not be the rating, but it has the same millionths
(`nearest_millionths`): it is at least as near to them as the rating is, and a tie
that rounded to them before does so again.
-/

namespace ChartCatalog.Rating

open Number Text

/-! ## Millionths in digits -/

theorem length_digits_le {n e : Nat} (he : 0 < e) (h : n < powerOfTen e) :
    (digits n).length ≤ e :=
  (Nat.length_toDigits_le_iff (by decide) he).mpr h

/-- With the zeros that are left out, the digits after the point are those of the
millionths that do not make up a whole. -/
theorem fractionDigits_spec (k : Nat) : ∃ zeros,
    numberOf (fractionDigits k) * powerOfTen zeros = k % powerOfTen places ∧
      (fractionDigits k).length + zeros = places ∧ IsDigits (fractionDigits k) := by
  have hlength : (digits (k % powerOfTen places)).length ≤ places :=
    length_digits_le (by decide) (Nat.mod_lt _ (powerOfTen_pos places))
  unfold fractionDigits
  dsimp only
  generalize hpadded : List.replicate (places - (digits (k % powerOfTen places)).length) '0' ++
    digits (k % powerOfTen places) = padded
  obtain ⟨zeros, hsplit⟩ := dropWhile_reverse_append_zeros padded
  refine ⟨zeros, ?_, ?_, fun c hc => ?_⟩
  · rw [← numberOf_append_zeros, ← hsplit, ← hpadded, numberOf_zeros_append, numberOf_digits]
  · have htotal := congrArg List.length hsplit
    rw [← hpadded, List.length_append, List.length_append, List.length_replicate,
      List.length_replicate, hpadded] at htotal
    omega
  · have hmem : c ∈ padded := by
      rw [hsplit]
      exact List.mem_append_left _ hc
    rw [← hpadded] at hmem
    exact (isDigits_zeros _).append (isDigits_digits _) c hmem

/-- The text of a number of millionths denotes that many millionths. -/
theorem decimals_millionthsText (k : Nat) : ∃ w f, Decimals (millionthsText k) w f ∧
    numberOf (w ++ f) * powerOfTen places = k * powerOfTen f.length := by
  obtain ⟨zeros, hvalue, hlength, hfraction⟩ := fractionDigits_spec k
  have hwhole : digits (k / powerOfTen places) ≠ [] := Nat.toDigits_ne_nil
  refine ⟨digits (k / powerOfTen places), fractionDigits k, ?_, ?_⟩
  · unfold millionthsText
    dsimp only
    split
    · rename_i hnil
      rw [hnil, List.append_nil]
      exact .whole hwhole (isDigits_digits _)
    · exact .point hwhole (isDigits_digits _) hfraction
  · generalize fractionDigits k = f at hvalue hlength
    calc numberOf (digits (k / powerOfTen places) ++ f) * powerOfTen places
        = (k / powerOfTen places * powerOfTen f.length + numberOf f) *
            (powerOfTen f.length * powerOfTen zeros) := by
          rw [numberOf_append, numberOf_digits, ← powerOfTen_add, hlength]
      _ = (k / powerOfTen places * (powerOfTen f.length * powerOfTen zeros) +
            numberOf f * powerOfTen zeros) * powerOfTen f.length := by ring
      _ = (powerOfTen places * (k / powerOfTen places) + k % powerOfTen places) *
            powerOfTen f.length := by
          rw [hvalue, ← powerOfTen_add, hlength, Nat.mul_comm (powerOfTen places)]
      _ = k * powerOfTen f.length := by rw [Nat.div_add_mod]

/-- Read as a numeral, the text gives the number nearest to the millionths. -/
theorem decimalValue_millionthsText (k : Nat) : ∃ w f, Decimals (millionthsText k) w f ∧
    ∀ negative, decimalValue negative w f = .nearest negative k (powerOfTen places) := by
  obtain ⟨w, f, hdecimals, hvalue⟩ := decimals_millionthsText k
  refine ⟨w, f, hdecimals, fun negative => ?_⟩
  exact Binary64.nearest_eq_of_mul_eq (powerOfTen_pos _) (powerOfTen_pos _) hvalue

/-! ## Rounding twice -/

theorem millionths_zero : millionths 0 = 0 :=
  roundDiv_eq_zero .toEven (by
    rw [Nat.zero_mul]
    exact Binary64.unitsPerOne_pos)

/-- The millionths of a rating are at most half a millionth away from it. -/
theorem millionths_near (units : Nat) :
    2 * ((millionths units * unitsPerOne : Nat) - (units * powerOfTen places : Nat) : Int).natAbs ≤
      unitsPerOne := by
  have hround := (roundDiv_toEven_eq_iff Binary64.unitsPerOne_pos).mp (Eq.refl (millionths units))
  rcases hround with hlt | heq
  · exact Nat.le_of_lt hlt
  · exact Nat.le_of_eq heq.1

/-- The number nearest to the millionths of a rating is finite and has the same
millionths. -/
theorem nearest_millionths (negative : Bool) {units : Nat} (h : Representable units) :
    ∃ units', ∃ h' : Representable units', millionths units' = millionths units ∧
      Binary64.nearest negative (millionths units) (powerOfTen places) =
        .finite negative units' h' := by
  generalize hunits' : Binary64.nearestUnits (millionths units * unitsPerOne)
    (powerOfTen places) = units'
  -- the rating itself is a candidate for the nearest number
  have hnearer := Binary64.nearestUnits_nearest (millionths units * unitsPerOne)
    (powerOfTen_pos places) h
  rw [hunits'] at hnearer
  have hsame : millionths units' = millionths units := by
    apply roundDiv_toEven_eq_of_nearer Binary64.unitsPerOne_pos
    show ((millionths units * unitsPerOne : Nat) -
        (units' * powerOfTen places : Nat) : Int).natAbs ≤
      ((millionths units * unitsPerOne : Nat) - (units * powerOfTen places : Nat) : Int).natAbs
    omega
  -- it is less than one away from the rating, so it stays below the limit
  have hlimit : units' < unitLimit := by
    have hnear := millionths_near units
    have hroom := Binary64.add_unitsPerOne_le_unitLimit h
    have hpos := Binary64.unitsPerOne_pos
    have htwo : unitsPerOne * 2 ≤ unitsPerOne * powerOfTen places :=
      Nat.mul_le_mul_left _ (by decide)
    rcases Nat.lt_or_ge units' (units + unitsPerOne) with hlt | hge
    · omega
    · have hfar := Nat.mul_le_mul_right (powerOfTen places) hge
      rw [Nat.add_mul] at hfar
      omega
  refine ⟨units', ?_, hsame, ?_⟩
  · rw [← hunits'] at hlimit ⊢
    exact representable_shiftLeft (Binary64.nearestUnits_significand_le _ _) hlimit
  · exact Binary64.ofUnits_eq_finite hunits' _

/-- Read under either sign, the millionths of a rating give its text, provided that the
sign is that of the rating where the text has one. -/
theorem text_nearest_millionths (negative' : Bool) {negative : Bool} {units : Nat}
    (h : Representable units)
    (hsign : (negative' && millionths units != 0) = (negative && millionths units != 0)) :
    (Binary64.nearest negative' (millionths units) (powerOfTen places)).isFinite = true ∧
      text (.nearest negative' (millionths units) (powerOfTen places)) =
        text (.finite negative units h) := by
  obtain ⟨units', h', hsame, hnearest⟩ := nearest_millionths negative' h
  rw [hnearest]
  refine ⟨rfl, ?_⟩
  simp only [text, textChars, hsame, hsign]

end ChartCatalog.Rating
