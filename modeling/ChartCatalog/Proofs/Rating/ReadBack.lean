import ChartCatalog.Listing
import ChartCatalog.Proofs.Condition.RoundTrip
import ChartCatalog.Proofs.Rating.Text

/-!
# Searching for a rating as it is shown

A listing shows the text of a rating, with a plus if the rating is positive
(`Rating.signedText`). Behind `rat=` that text is a clause, of any length and with or
without a point: a sign makes it one token, and the one text without a sign is a single
zero. The rating that the clause asks for is another number in general, but has the same
text, and texts are what `=` and `!=` compare. So a chart is found by the rating that is
shown for it (`Chart.accepts_shownRating`).
-/

namespace ChartCatalog

open Number Text

namespace Rating

/-! ## What is shown -/

theorem isPositive_finite (negative : Bool) {units : Nat} (h : Representable units) :
    isPositive (.finite negative units h) = (!negative && units != 0) := by
  have hcompare : isPositive (.finite negative units h) = true ↔
      (0 : Int) < if negative then -(units : Int) else units := by
    show (some (compare (if negative then -(units : Int) else units) 0) == some .gt) = true ↔ _
    rw [beq_iff_eq, Option.some.injEq, Int.compare_eq_gt]
  rw [Bool.eq_iff_iff, hcompare]
  cases negative with
  | false => simp [Nat.pos_iff_ne_zero]
  | true => simp

theorem toList_text (negative : Bool) {units : Nat} (h : Representable units) :
    (text (.finite negative units h)).toList =
      signText (negative && millionths units != 0) ++ millionthsText (millionths units) :=
  String.toList_ofList

-- for any digits: by computation, the digits of a rating would be computed as well
theorem plus_append (s : List Char) : "+".toList ++ (signText false ++ s) = '+' :: s := rfl

theorem minus_append (s : List Char) : signText true ++ s = '-' :: s := rfl

/-- A listing shows the millionths of a rating after a sign, or a single zero. -/
theorem toList_signedText (negative : Bool) {units : Nat} (h : Representable units) :
    (negative = false ∧ (signedText (.finite negative units h)).toList =
      '+' :: millionthsText (millionths units)) ∨
    (negative = true ∧ (signedText (.finite negative units h)).toList =
      '-' :: millionthsText (millionths units)) ∨
    (millionths units = 0 ∧ (signedText (.finite negative units h)).toList = ['0']) := by
  unfold signedText
  rw [isPositive_finite]
  by_cases hpositive : negative = false ∧ units ≠ 0
  · obtain ⟨rfl, hunits⟩ := hpositive
    left
    rw [if_pos (by simp [hunits]), String.toList_append, toList_text, Bool.false_and, plus_append]
    exact ⟨rfl, rfl⟩
  · right
    rw [if_neg (by simpa using hpositive), toList_text]
    by_cases hzero : millionths units = 0
    · right
      rw [hzero, bne_self_eq_false, Bool.and_false]
      exact ⟨rfl, rfl⟩
    · -- other than zero and not positive
      left
      have hnegative : negative = true := by
        rw [← Bool.not_eq_false]
        intro hfalse
        refine hpositive ⟨hfalse, ?_⟩
        rintro rfl
        exact hzero millionths_zero
      rw [hnegative, Bool.true_and, bne_iff_ne.mpr hzero, minus_append]
      exact ⟨rfl, rfl⟩

/-! ## What is read -/

theorem ratingSpelling_plus {s w f : List Char} (h : Decimals s w f)
    (hfinite : (decimalValue false w f).isFinite = true) :
    RatingSpelling ('+' :: s) (decimalValue false w f) := by
  refine ⟨.plus h, hfinite, fun hdigits => ?_⟩
  exact absurd (hdigits '+' List.mem_cons_self) (by decide)

theorem ratingSpelling_minus {s w f : List Char} (h : Decimals s w f)
    (hfinite : (decimalValue true w f).isFinite = true) :
    RatingSpelling ('-' :: s) (decimalValue true w f) := by
  refine ⟨.minus h, hfinite, fun hdigits => ?_⟩
  exact absurd (hdigits '-' List.mem_cons_self) (by decide)

/-- What a listing shows of a rating is a spelling of a rating with the same text. -/
theorem ratingSpelling_signedText {rating : Binary64} (hfinite : rating.isFinite = true) :
    ∃ value, RatingSpelling (signedText rating).toList value ∧ text value = text rating := by
  obtain ⟨negative, units, h, rfl⟩ := Binary64.exists_eq_finite hfinite
  obtain ⟨w, f, hdecimals, hvalue⟩ := decimalValue_millionthsText (millionths units)
  rcases toList_signedText negative h with ⟨rfl, hshown⟩ | ⟨rfl, hshown⟩ | ⟨hzero, hshown⟩
  · obtain ⟨hread, htext⟩ := text_nearest_millionths false h rfl
    rw [← hvalue] at hread htext
    rw [hshown]
    exact ⟨_, ratingSpelling_plus hdecimals hread, htext⟩
  · obtain ⟨hread, htext⟩ := text_nearest_millionths true h rfl
    rw [← hvalue] at hread htext
    rw [hshown]
    exact ⟨_, ratingSpelling_minus hdecimals hread, htext⟩
  · have hsign : (false && millionths units != 0) = (negative && millionths units != 0) := by
      rw [hzero, bne_self_eq_false, Bool.and_false, Bool.and_false]
    obtain ⟨hread, htext⟩ := text_nearest_millionths false h hsign
    rw [← hvalue] at hread htext
    rw [hshown]
    rw [hzero] at hdecimals
    exact ⟨_, ⟨.unsigned hdecimals, hread, fun _ => .inl rfl⟩, htext⟩

end Rating

/-- A rating in any spelling is read back directly after its sign. -/
theorem Condition.parse_ratingSpelling (comparison : Comparison) {operand : String}
    {value : Binary64} (h : RatingSpelling operand.toList value) :
    parse ("rat" ++ comparison.sign ++ operand) = .ok (.rating comparison value) := by
  have htext : IsText ("rat" ++ comparison.sign ++ operand).toList := by
    rw [String.toList_append, String.toList_append]
    exact ((show IsText "rat".toList by decide).append
      (isText_sign (comparison_sign_mem comparison))).append (isText_of_numeral h.numeral)
  apply parse_of_parts (.rating comparison h)
  have hparts : ("rat" ++ comparison.sign ++ operand).toList =
      ["rat".toList, comparison.sign.toList, operand.toList].flatten := by simp
  rw [lowerCase_of_isPlain (isPlain_of_isText htext), hparts]
  exact .flatten _

/-! ## Charts -/

namespace Chart

variable {chart : Chart} {rating : Binary64}

/-- The line of the chart without its rating and title, the columns before them. -/
def lineBeforeRating (chart : Chart) : String :=
  { chart with rating := none, title := "" }.line

/-- The line of the chart shows the text as its rating, in a colour or plainly. -/
def ShowsRating (chart : Chart) (shown : String) : Prop :=
  ∃ styled, chart.line = chart.lineBeforeRating ++ "  rat " ++ styled ++ chart.titleText ∧
    (styled = shown ∨ ∃ style : Style, styled = style.apply shown)

theorem styledText_cases (rating : Binary64) :
    Rating.styledText rating = Rating.signedText rating ∨
      ∃ style : Style, Rating.styledText rating = style.apply (Rating.signedText rating) := by
  unfold Rating.styledText
  split
  · exact .inr ⟨.red, rfl⟩
  · split
    · exact .inl rfl
    · exact .inr ⟨.cyan, rfl⟩

theorem line_of_rating (hrating : chart.rating = some rating) :
    chart.line =
      chart.lineBeforeRating ++ "  rat " ++ Rating.styledText rating ++ chart.titleText := by
  have hplain : { chart with rating := none, title := "" }.titleText = "" := if_pos rfl
  simp only [line, lineBeforeRating, hrating, hplain, String.append_empty, String.append_assoc]

theorem showsRating_signedText (hrating : chart.rating = some rating) :
    chart.ShowsRating (Rating.signedText rating) :=
  ⟨_, line_of_rating hrating, styledText_cases rating⟩

/-- The rating that is shown for a chart finds the chart: behind `rat=` it is a clause
that the chart satisfies, and behind `rat!=` one that it does not satisfy. -/
theorem accepts_shownRating (chart : Chart) {rating : Binary64}
    (hrating : chart.rating = some rating) (hfinite : rating.isFinite = true)
    (hardest : HardestOf) :
    chart.ShowsRating (Rating.signedText rating) ∧ ∃ value,
      Condition.parse ("rat=" ++ Rating.signedText rating) = .ok (.rating .eq value) ∧
      (Condition.rating .eq value).accepts chart hardest = true ∧
      Condition.parse ("rat!=" ++ Rating.signedText rating) = .ok (.rating .ne value) ∧
      (Condition.rating .ne value).accepts chart hardest = false := by
  obtain ⟨value, hspelling, htext⟩ := Rating.ratingSpelling_signedText hfinite
  refine ⟨showsRating_signedText hrating, value, ?_, ?_, ?_, ?_⟩
  · exact Condition.parse_ratingSpelling .eq hspelling
  · show chart.rating.any (Rating.satisfies .eq · value) = true
    rw [hrating, Option.any_some, Rating.satisfies, htext, beq_self_eq_true]
  · exact Condition.parse_ratingSpelling .ne hspelling
  · show chart.rating.any (Rating.satisfies .ne · value) = false
    rw [hrating, Option.any_some, Rating.satisfies, htext, bne_self_eq_false]

/-- A chart rated a third, which is not the decimal that is shown for it. -/
def thirdChart : Chart :=
  { Chart.draft "1n" "1" .normal 20 with rating := some (.nearest false 1 3) }

theorem accepts_shownRating_third :
    Rating.signedText (.nearest false 1 3) = "+0.333333" ∧
      thirdChart.ShowsRating "+0.333333" ∧ ∃ value,
        Condition.parse "rat=+0.333333" = .ok (.rating .eq value) ∧
        (Condition.rating .eq value).accepts thirdChart (fun _ => none) = true ∧
        Condition.parse "rat!=+0.333333" = .ok (.rating .ne value) ∧
        (Condition.rating .ne value).accepts thirdChart (fun _ => none) = false := by
  have hshown : Rating.signedText (.nearest false 1 3) = "+0.333333" := by decide +kernel
  have hthird := accepts_shownRating thirdChart rfl (by decide +kernel) (fun _ => none)
  rw [hshown] at hthird
  exact ⟨hshown, hthird⟩

end Chart

end ChartCatalog
