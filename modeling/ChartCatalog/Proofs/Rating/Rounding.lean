import ChartCatalog.Condition.Basic
import ChartCatalog.Proofs.Number.HalfEven
import ChartCatalog.Proofs.Rating.Text

/-!
# Equal ratings

Ratings are equal when their texts are. The text of a finite rating is the shortest way to
write the rating rounded to millionths (`rounded`): it denotes just this decimal
(`denotes_text`), and a text denotes one number only (`Denotes.unique`), so two ratings have
the same text exactly if they round to the same number of millionths
(`text_eq_iff_rounded_eq`). Rounding keeps the order, so the ratings equal to a given one
are an interval around it, no wider than a millionth to either side (`text_rounds`).
-/

namespace ChartCatalog.Rating

open Number Text

/-! ## What a text denotes -/

/-- The text is a decimal, digits with at most one point and perhaps a minus, and this is
its exact value. -/
inductive Denotes : List Char → ℚ → Prop
  | unsigned {s w f : List Char} : Decimals s w f →
      Denotes s ((numberOf (w ++ f) : ℚ) / powerOfTen f.length)
  | minus {s w f : List Char} : Decimals s w f →
      Denotes ('-' :: s) (-((numberOf (w ++ f) : ℚ) / powerOfTen f.length))

/-- A text denotes one number only. -/
theorem Denotes.unique {s : List Char} {q q' : ℚ} (h : Denotes s q) (h' : Denotes s q') :
    q = q' := by
  cases h with
  | unsigned hs =>
    cases h' with
    | unsigned hs' =>
      obtain ⟨rfl, rfl⟩ := hs.unique hs'
      rfl
    | minus hs' =>
      have hsign : true = false := congrArg Prod.fst hs.splitSign_eq
      exact absurd hsign (by decide)
  | minus hs =>
    cases h' with
    | unsigned hs' =>
      have hsign : true = false := congrArg Prod.fst hs'.splitSign_eq
      exact absurd hsign (by decide)
    | minus hs' =>
      obtain ⟨rfl, rfl⟩ := hs.unique hs'
      rfl

/-! ## The rounded rating -/

/-- The rating in millionths, as the nearest whole number, the even one of two that are
equally near. -/
def rounded (rating : Binary64) : ℤ := roundHalfEven (rating.toRat * 10 ^ 6)

theorem powerOfTen_places : (powerOfTen places : ℚ) = 10 ^ 6 := by
  have hvalue : powerOfTen places = 1000000 := by decide
  rw [hvalue]
  norm_num

theorem rounded_finite (negative : Bool) {units : Nat} (h : Representable units) :
    rounded (.finite negative units h) =
      if negative then -(millionths units : ℤ) else millionths units := by
  have hunsigned : roundHalfEven ((units : ℚ) / unitsPerOne * 10 ^ 6) = millionths units := by
    have hquotient : (units : ℚ) / unitsPerOne * 10 ^ 6 =
        ((units * powerOfTen places : Nat) : ℚ) / unitsPerOne := by
      rw [Nat.cast_mul, powerOfTen_places]
      ring
    rw [hquotient]
    exact roundHalfEven_div _ Binary64.unitsPerOne_pos
  rw [rounded, Binary64.toRat]
  cases negative with
  | false => rw [if_neg (by decide), if_neg (by decide), hunsigned]
  | true => rw [if_pos rfl, if_pos rfl, neg_div, neg_mul, roundHalfEven_neg, hunsigned]

/-- The text of a number of millionths denotes that many millionths. -/
theorem denotes_millionthsText (k : Nat) (negative : Bool) :
    Denotes (signText negative ++ millionthsText k)
      ((if negative then -(k : ℚ) else k) / 10 ^ 6) := by
  obtain ⟨w, f, hdecimals, hvalue⟩ := decimals_millionthsText k
  have hquotient : (numberOf (w ++ f) : ℚ) / powerOfTen f.length = k / 10 ^ 6 := by
    have hpos : (0 : ℚ) < powerOfTen f.length := by exact_mod_cast powerOfTen_pos f.length
    rw [div_eq_div_iff hpos.ne' (by norm_num), ← powerOfTen_places]
    exact_mod_cast hvalue
  cases negative with
  | false =>
    rw [if_neg (by decide), ← hquotient]
    exact .unsigned hdecimals
  | true =>
    rw [if_pos rfl, neg_div, ← hquotient]
    exact .minus hdecimals

/-- The text of a rating denotes the rounded rating. -/
theorem denotes_text {rating : Binary64} (hfinite : rating.isFinite = true) :
    Denotes (text rating).toList (rounded rating / 10 ^ 6) := by
  obtain ⟨negative, units, h, rfl⟩ := Binary64.exists_eq_finite hfinite
  have htext := denotes_millionthsText (millionths units) (negative && millionths units != 0)
  have hvalue : (rounded (.finite negative units h) : ℚ) =
      if negative && millionths units != 0 then -(millionths units : ℚ)
      else millionths units := by
    rw [rounded_finite]
    cases negative with
    | false => simp
    | true =>
      by_cases hzero : millionths units = 0
      · simp [hzero]
      · simp [hzero]
  rw [text, String.toList_ofList, hvalue]
  exact htext

/-- A number that is not zero has one sign only. -/
theorem sign_eq_of_signed_eq {k : Nat} (hk : k ≠ 0) {negative negative' : Bool}
    (h : (if negative then -(k : ℤ) else k) = if negative' then -(k : ℤ) else k) :
    negative = negative' := by
  cases negative with
  | false =>
    cases negative' with
    | false => rfl
    | true =>
      have hself : (k : ℤ) = -k := h
      omega
  | true =>
    cases negative' with
    | true => rfl
    | false =>
      have hself : -(k : ℤ) = k := h
      omega

/-- Texts tell ratings apart exactly if rounding does. -/
theorem text_eq_iff_rounded_eq {a b : Binary64} (ha : a.isFinite = true)
    (hb : b.isFinite = true) : text a = text b ↔ rounded a = rounded b := by
  constructor
  · intro htext
    have hdenotes := denotes_text ha
    rw [htext] at hdenotes
    have hvalue := hdenotes.unique (denotes_text hb)
    rw [div_left_inj' (by norm_num)] at hvalue
    exact_mod_cast hvalue
  · intro hrounded
    obtain ⟨negative, units, h, rfl⟩ := Binary64.exists_eq_finite ha
    obtain ⟨negative', units', h', rfl⟩ := Binary64.exists_eq_finite hb
    rw [rounded_finite, rounded_finite] at hrounded
    have hsame : millionths units = millionths units' := by
      split at hrounded <;> split at hrounded <;> omega
    -- zero has no sign in the text; any other number has the sign of the rating
    have hsign : (negative && millionths units != 0) =
        (negative' && millionths units' != 0) := by
      rw [← hsame] at hrounded ⊢
      by_cases hzero : millionths units = 0
      · rw [hzero, bne_self_eq_false, Bool.and_false, Bool.and_false]
      · rw [sign_eq_of_signed_eq hzero hrounded]
    simp only [text, textChars]
    rw [hsign, hsame]

/-! ## The form of a text -/

/-- No zeros stand at the end of the fraction. -/
theorem getLast?_fractionDigits (k : Nat) : (fractionDigits k).getLast? ≠ some '0' := by
  unfold fractionDigits
  dsimp only
  rw [List.getLast?_reverse]
  intro hhead
  have hnot := List.head?_dropWhile_not (· == '0')
    (List.replicate (places - (digits (k % powerOfTen places)).length) '0' ++
      digits (k % powerOfTen places)).reverse
  rw [hhead] at hnot
  exact absurd hnot (by decide)

/-- If there is a point in a text, digits follow it, and the last of them is not zero. -/
theorem fraction_of_text {rating : Binary64} (hfinite : rating.isFinite = true)
    {w f : List Char} (h : (text rating).toList = w ++ '.' :: f) :
    f ≠ [] ∧ f.getLast? ≠ some '0' := by
  obtain ⟨negative, units, hunits, rfl⟩ := Binary64.exists_eq_finite hfinite
  rw [text, String.toList_ofList, textChars, millionthsText] at h
  obtain ⟨-, -, -, hfraction⟩ := fractionDigits_spec (millionths units)
  have hlast := getLast?_fractionDigits (millionths units)
  generalize fractionDigits (millionths units) = fraction at h hfraction hlast
  have hwhole : '.' ∉ signText (negative && millionths units != 0) ++
      digits (millionths units / powerOfTen places) := by
    rw [List.mem_append, not_or]
    refine ⟨?_, (isDigits_digits _).not_mem (by decide)⟩
    cases negative && millionths units != 0 <;> decide
  rw [← List.append_assoc] at h
  split at h
  next hnil =>
    -- without a fraction there is no point
    rw [List.append_nil] at h
    rw [h] at hwhole
    exact absurd (by simp) hwhole
  next hne =>
    obtain ⟨-, -, rfl⟩ := (List.append_cons_inj_of_notMem hwhole
      (hfraction.not_mem (by decide))).mp h
    exact ⟨hne, hlast⟩

/-- Zero has no sign. -/
theorem text_ne_minus_zero {rating : Binary64} (hfinite : rating.isFinite = true) :
    text rating ≠ "-0" := by
  intro htext
  have hzero : Denotes (text rating).toList (-((numberOf ['0'] : ℚ) / powerOfTen 0)) := by
    rw [htext]
    exact .minus (.whole (by decide) (by decide))
  have hrounded := (denotes_text hfinite).unique hzero
  have hzero' : rounded rating = rounded (.zero false) := by
    have hdigit : numberOf ['0'] = 0 := by decide
    rw [hdigit, Nat.cast_zero, zero_div, neg_zero, div_eq_zero_iff] at hrounded
    have hrating : (rounded rating : ℚ) = 0 := hrounded.resolve_right (by norm_num)
    rw [Binary64.zero, rounded_finite, millionths_zero]
    exact_mod_cast hrating
  -- so the rating has the text of zero
  rw [← text_eq_iff_rounded_eq hfinite rfl, htext] at hzero'
  exact absurd hzero' (by decide +kernel)

/-! ## The ratings that a clause finds -/

/-- The finite ratings whose charts satisfy `rat=` with this value. -/
def IsMatch (value rating : Binary64) : Prop :=
  rating.isFinite = true ∧ ∀ (chart : Chart) (hardest : HardestOf), chart.rating = some rating →
    (Condition.rating .eq value).accepts chart hardest = true

/-- A chart with this rating and nothing else of interest. -/
def ratedChart (rating : Binary64) : Chart :=
  (Chart.draft "1n" "1" .normal 1).apply (.rating rating)

theorem isMatch_iff {value rating : Binary64} (hvalue : value.isFinite = true) :
    IsMatch value rating ↔ rating.isFinite = true ∧ rounded rating = rounded value := by
  refine and_congr_right fun hfinite => ?_
  have haccepts : ∀ (chart : Chart) (hardest : HardestOf), chart.rating = some rating →
      ((Condition.rating .eq value).accepts chart hardest = true ↔ text rating = text value) := by
    intro chart hardest hrating
    show chart.rating.any (satisfies .eq · value) = true ↔ _
    rw [hrating, Option.any_some, satisfies, beq_iff_eq]
  rw [← text_eq_iff_rounded_eq hfinite hvalue]
  constructor
  · intro h
    exact (haccepts (ratedChart rating) (fun _ => none) rfl).mp (h _ _ rfl)
  · intro htext chart hardest hrating
    exact (haccepts chart hardest hrating).mpr htext

/-- `rat!=` finds the rated charts that `rat=` does not find. -/
theorem accepts_eq_iff (value : Binary64) (chart : Chart) (hardest : HardestOf) :
    (Condition.rating .eq value).accepts chart hardest = true ↔
      chart.rating ≠ none ∧ (Condition.rating .ne value).accepts chart hardest = false := by
  show chart.rating.any (satisfies .eq · value) = true ↔
    _ ∧ chart.rating.any (satisfies .ne · value) = false
  cases chart.rating with
  | none => simp
  | some rating => simp [satisfies]

/-- Finite ratings have the same text exactly if they round to the same millionths, half a
millionth going to the even one. The text denotes the rounded rating exactly, ends neither
in a point nor in a zero after a point, and is never a zero with a sign. So the ratings
that `rat=` finds contain the value that is asked for, form an interval, and are no more
than a millionth away from it, and `rat=` finds the rated charts that `rat!=` does not. -/
theorem text_rounds :
    (∀ a b : Binary64, a.isFinite = true → b.isFinite = true →
      (text a = text b ↔ rounded a = rounded b)) ∧
    (∀ rating : Binary64, rating.isFinite = true →
      Denotes (text rating).toList (rounded rating / 10 ^ 6) ∧
      (∀ w f, (text rating).toList = w ++ '.' :: f → f ≠ [] ∧ f.getLast? ≠ some '0') ∧
      text rating ≠ "-0") ∧
    ∀ value : Binary64, value.isFinite = true →
      IsMatch value value ∧
      (∀ a b c : Binary64, IsMatch value a → IsMatch value c → b.isFinite = true →
        a.toRat ≤ b.toRat → b.toRat ≤ c.toRat → IsMatch value b) ∧
      (∀ rating : Binary64, IsMatch value rating →
        |rating.toRat - value.toRat| ≤ 1 / 10 ^ 6) ∧
      ∀ (chart : Chart) (hardest : HardestOf),
        ((Condition.rating .eq value).accepts chart hardest = true ↔
          chart.rating ≠ none ∧ (Condition.rating .ne value).accepts chart hardest = false) := by
  refine ⟨fun a b => text_eq_iff_rounded_eq, fun rating hfinite => ⟨denotes_text hfinite,
    fun w f => fraction_of_text hfinite, text_ne_minus_zero hfinite⟩, fun value hvalue => ?_⟩
  refine ⟨(isMatch_iff hvalue).mpr ⟨hvalue, rfl⟩, ?_, ?_, accepts_eq_iff value⟩
  · intro a b c ha hc hb hab hbc
    rw [isMatch_iff hvalue] at ha hc ⊢
    have hlow : rounded a ≤ rounded b :=
      roundHalfEven_mono (mul_le_mul_of_nonneg_right hab (by norm_num))
    have hhigh : rounded b ≤ rounded c :=
      roundHalfEven_mono (mul_le_mul_of_nonneg_right hbc (by norm_num))
    exact ⟨hb, by omega⟩
  · intro rating hmatch
    have hnear := abs_sub_le_of_roundHalfEven_eq ((isMatch_iff hvalue).mp hmatch).2
    rwa [← sub_mul, abs_mul, abs_of_pos (by norm_num : (0 : ℚ) < 10 ^ 6),
      ← le_div_iff₀ (by norm_num)] at hnear

/-- The binary number nearest to a third. -/
def third : Binary64 := .nearest false 1 3

/-- Another number with the text `0.333333`, a little above a third. -/
def aboveThird : Binary64 := .ofDecimal false 3333334 (-7)

theorem text_rounds_third :
    third.isFinite = true ∧ aboveThird.isFinite = true ∧ third ≠ aboveThird ∧
      rounded third = rounded aboveThird ∧ IsMatch third aboveThird ∧
      |aboveThird.toRat - third.toRat| ≤ 1 / 10 ^ 6 := by
  have hthird : third.isFinite = true := by decide +kernel
  have habove : aboveThird.isFinite = true := by decide +kernel
  have hrounded : rounded third = rounded aboveThird :=
    (text_rounds.1 third aboveThird hthird habove).mp (by decide +kernel)
  have hmatch : IsMatch third aboveThird := (isMatch_iff hthird).mpr ⟨habove, hrounded.symm⟩
  obtain ⟨-, -, hnear, -⟩ := text_rounds.2.2 third hthird
  exact ⟨hthird, habove, by decide +kernel, hrounded, hmatch, hnear aboveThird hmatch⟩

end ChartCatalog.Rating
