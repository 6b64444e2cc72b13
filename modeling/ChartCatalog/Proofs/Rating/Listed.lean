import ChartCatalog.Proofs.Rating.ReadBack
import ChartCatalog.Proofs.Rating.Rounding

/-!
# Equal ratings in a listing

A listing takes the digits of a rating from its text, but the plus and the colour from the
rating itself. Ratings with one text have one sign, unless the text is zero: rounding keeps
the sign of whatever it does not round to zero (`Rating.pos_iff_of_text_eq`). So equal
ratings are listed alike, except that a rating just above zero is shown as `+0` in red and the
other ratings with the text of zero as a plain `0` (`Chart.line_of_equal_text`).
-/

namespace ChartCatalog

open Number

namespace Rating

variable {a b rating : Binary64}

/-! ## The sign of a rating -/

theorem isPositive_iff (hfinite : rating.isFinite = true) :
    isPositive rating = true ↔ 0 < rating.toRat := by
  obtain ⟨negative, units, h, rfl⟩ := Binary64.exists_eq_finite hfinite
  have hone : (0 : ℚ) < unitsPerOne := by exact_mod_cast Binary64.unitsPerOne_pos
  rw [isPositive_finite, Binary64.toRat, div_pos_iff_of_pos_right hone]
  cases negative with
  | false => simp [Nat.pos_iff_ne_zero]
  | true => simp

theorem rounded_zero (negative : Bool) : rounded (.zero negative) = 0 := by
  rw [Binary64.zero, rounded_finite, millionths_zero]
  simp

theorem text_eq_zero_iff (hfinite : rating.isFinite = true) :
    text rating = "0" ↔ rounded rating = 0 := by
  have hzero : text (.zero false) = "0" := by decide +kernel
  rw [← hzero, text_eq_iff_rounded_eq hfinite rfl, rounded_zero]

/-- Rounding gives zero or a number with the sign of the rating. -/
theorem pos_iff_rounded_pos (hne : rounded rating ≠ 0) : 0 < rating.toRat ↔ 0 < rounded rating := by
  have hzero : roundHalfEven (0 * 10 ^ 6) = 0 := by
    rw [zero_mul]
    exact IsRounded.roundHalfEven_eq ⟨by norm_num, by norm_num⟩
  constructor
  · intro hpos
    have hmono : roundHalfEven (0 * 10 ^ 6) ≤ rounded rating :=
      roundHalfEven_mono (mul_le_mul_of_nonneg_right hpos.le (by norm_num))
    omega
  · intro hpos
    by_contra hle
    have hmono : rounded rating ≤ roundHalfEven (0 * 10 ^ 6) :=
      roundHalfEven_mono (mul_le_mul_of_nonneg_right (not_lt.mp hle) (by norm_num))
    omega

/-- Ratings with one text have one sign, unless the text is zero. -/
theorem pos_iff_of_text_eq (ha : a.isFinite = true) (hb : b.isFinite = true)
    (htext : text a = text b) (hne : text a ≠ "0") : 0 < a.toRat ↔ 0 < b.toRat := by
  have hrounded : rounded a = rounded b := (text_eq_iff_rounded_eq ha hb).mp htext
  rw [Ne, text_eq_zero_iff ha] at hne
  rw [pos_iff_rounded_pos hne, hrounded, ← pos_iff_rounded_pos (hrounded ▸ hne)]

/-! ## What is shown of it -/

theorem styledText_of_text_eq_zero (hfinite : rating.isFinite = true) (hzero : text rating = "0") :
    styledText rating = if 0 < rating.toRat then Style.red.apply "+0" else "0" := by
  unfold styledText signedText
  by_cases hpos : 0 < rating.toRat
  · have hpositive := (isPositive_iff hfinite).mpr hpos
    rw [if_pos hpositive, if_pos hpositive, if_pos hpos, hzero]
    rfl
  · have hpositive := mt (isPositive_iff hfinite).mp hpos
    rw [if_neg hpositive, if_neg hpositive, if_pos hzero, if_neg hpos, hzero]

/-- What is shown of ratings with one text is settled by the text and the sign. -/
theorem styledText_congr (ha : a.isFinite = true) (hb : b.isFinite = true)
    (htext : text a = text b) (hsign : 0 < a.toRat ↔ 0 < b.toRat) :
    styledText a = styledText b := by
  have hpositive : isPositive a = isPositive b := by
    rw [Bool.eq_iff_iff, isPositive_iff ha, isPositive_iff hb, hsign]
  rw [styledText, styledText, signedText, signedText, hpositive, htext]

theorem styledText_eq_iff (ha : a.isFinite = true) (hb : b.isFinite = true)
    (htext : text a = text b) :
    styledText a = styledText b ↔ (text a = "0" → (0 < a.toRat ↔ 0 < b.toRat)) := by
  constructor
  · intro hstyled hzero
    rw [styledText_of_text_eq_zero ha hzero, styledText_of_text_eq_zero hb (htext ▸ hzero)]
      at hstyled
    have hcoloured : Style.red.apply "+0" ≠ "0" := by decide
    by_cases hpos : 0 < a.toRat
    · by_cases hpos' : 0 < b.toRat
      · exact iff_of_true hpos hpos'
      · rw [if_pos hpos, if_neg hpos'] at hstyled
        exact absurd hstyled hcoloured
    · by_cases hpos' : 0 < b.toRat
      · rw [if_neg hpos, if_pos hpos'] at hstyled
        exact absurd hstyled.symm hcoloured
      · exact iff_of_false hpos hpos'
  · intro hsign
    apply styledText_congr ha hb htext
    by_cases hzero : text a = "0"
    · exact hsign hzero
    · exact pos_iff_of_text_eq ha hb htext hzero

end Rating

/-! ## Lines -/

namespace Chart

theorem line_apply_rating (chart : Chart) (rating : Binary64) :
    (chart.apply (.rating rating)).line =
      chart.lineBeforeRating ++ "  rat " ++ Rating.styledText rating ++ chart.titleText :=
  line_of_rating rfl

theorem line_apply_rating_eq_iff (chart : Chart) (a b : Binary64) :
    (chart.apply (.rating a)).line = (chart.apply (.rating b)).line ↔
      Rating.styledText a = Rating.styledText b := by
  rw [line_apply_rating, line_apply_rating, String.append_left_inj, String.append_right_inj]

/-- A chart has the same line under two ratings with the same text, with one exception. The
text is zero, and one of the ratings is above zero and the other is not: the one is then
listed as `+0` in red, the other plainly as `0`. -/
theorem line_of_equal_text (chart : Chart) :
    (∀ a b : Binary64, a.isFinite = true → b.isFinite = true → Rating.text a = Rating.text b →
      ((chart.apply (.rating a)).line = (chart.apply (.rating b)).line ↔
        (Rating.text a = "0" → (0 < a.toRat ↔ 0 < b.toRat)))) ∧
    ∀ rating : Binary64, rating.isFinite = true → Rating.text rating = "0" →
      (chart.apply (.rating rating)).line =
        chart.lineBeforeRating ++ "  rat " ++
          (if 0 < rating.toRat then Style.red.apply "+0" else "0") ++ chart.titleText := by
  constructor
  · intro a b ha hb htext
    rw [line_apply_rating_eq_iff]
    exact Rating.styledText_eq_iff ha hb htext
  · intro rating hfinite hzero
    rw [line_apply_rating, Rating.styledText_of_text_eq_zero hfinite hzero]

/-- A rating above zero with the text of zero. -/
def aboveZero : Binary64 := .ofDecimal false 1 (-7)

/-- A rating below zero with the text of zero. -/
def belowZero : Binary64 := .ofDecimal true 1 (-7)

/-- A chart of which only the rating is of interest. -/
def plainTwelve : Chart := .draft "1n" "1" .normal 12

/-- Equal ratings can have different lines. -/
theorem line_aboveZero_ne :
    aboveZero.isFinite = true ∧ Rating.text aboveZero = Rating.text (.zero false) ∧
      (plainTwelve.apply (.rating aboveZero)).line ≠
        (plainTwelve.apply (.rating (.zero false))).line := by
  decide +kernel

theorem line_of_equal_text_aboveZero :
    (Rating.text belowZero = Rating.text (.zero false) ∧
      (plainTwelve.apply (.rating belowZero)).line =
        (plainTwelve.apply (.rating (.zero false))).line) ∧
    Rating.text aboveZero = "0" ∧
      (plainTwelve.apply (.rating aboveZero)).line =
        plainTwelve.lineBeforeRating ++ "  rat " ++ Style.red.apply "+0" ++
          plainTwelve.titleText := by
  have hbelow : belowZero.isFinite = true := by decide +kernel
  have habove : aboveZero.isFinite = true := by decide +kernel
  have htext : Rating.text belowZero = Rating.text (.zero false) := by decide +kernel
  have hsign : 0 < belowZero.toRat ↔ 0 < (Binary64.zero false).toRat := by
    rw [← Rating.isPositive_iff hbelow, ← Rating.isPositive_iff rfl]
    decide +kernel
  have hzero : Rating.text aboveZero = "0" := by decide +kernel
  have hpos : 0 < aboveZero.toRat := (Rating.isPositive_iff habove).mp (by decide +kernel)
  have hline := (line_of_equal_text plainTwelve).2 aboveZero habove hzero
  rw [if_pos hpos] at hline
  have hsame := (line_of_equal_text plainTwelve).1 belowZero (.zero false) hbelow rfl htext
  exact ⟨⟨htext, hsame.mpr fun _ => hsign⟩, hzero, hline⟩

end Chart

end ChartCatalog
