import ChartCatalog.Proofs.Condition.RoundTrip
import ChartCatalog.Proofs.Number.HalfEven
import ChartCatalog.Proofs.Selection.Meaning

/-!
# Half levels

A clause such as `lv>=40h` compares a level together with the part of it that the rating falls
into, the level first. Counted in thirds of a level (`HalfLevel.thirds`) such pairs are whole
numbers, three for each level, and the clause compares these numbers (`compareHalves_eq`). So
half levels refine levels: the parts of a level lie side by side, from the first, where
`lv>=40e` is `lv>=40`, to the last, where `lv<=40h` is `lv<=40`, and the next level follows.
A greater rating falls into no lower part (`HalfLevel.rank_ofRating_mono`), so a clause that
asks for at least a half level keeps every chart that lies above one that it keeps
(`Condition.halfLevel_refines_level`).
-/

namespace ChartCatalog

open Number

/-! ## The scale of thirds -/

namespace HalfLevel

/-- The number of a part of a level, in thirds of a level. -/
def thirds (level : UInt8) (half : HalfLevel) : Nat := 3 * level.toNat + half.rank

theorem rank_le_two (half : HalfLevel) : half.rank ≤ 2 := by
  cases half <;> decide

theorem rank_le_one {half : HalfLevel} (h : half ≠ harder) : half.rank ≤ 1 := by
  cases half with
  | easier | middle => decide
  | harder => exact absurd rfl h

theorem one_le_rank {half : HalfLevel} (h : half ≠ easier) : 1 ≤ half.rank := by
  cases half with
  | easier => exact absurd rfl h
  | middle | harder => decide

theorem rank_inj {half half' : HalfLevel} : half.rank = half'.rank ↔ half = half' := by
  cases half <;> cases half' <;> decide

end HalfLevel

/-- Levels with their parts are compared as their numbers of thirds. -/
theorem compareHalves_eq (level level' : UInt8) (half half' : HalfLevel) :
    compareHalves level half level' half' =
      compare (HalfLevel.thirds level half) (HalfLevel.thirds level' half') := by
  have hhalf := half.rank_le_two
  have hhalf' := half'.rank_le_two
  unfold compareHalves
  rcases Nat.lt_trichotomy level.toNat level'.toNat with hlt | heq | hgt
  · have hthirds : compare (HalfLevel.thirds level half) (HalfLevel.thirds level' half') = .lt :=
      Nat.compare_eq_lt.mpr (by unfold HalfLevel.thirds; omega)
    rw [hthirds, Nat.compare_eq_lt.mpr hlt]
    rfl
  · rw [heq, Nat.compare_eq_eq.mpr rfl]
    show compare half.rank half'.rank = _
    simp only [HalfLevel.thirds, heq, Nat.compare_eq_ite_lt, Nat.add_lt_add_iff_left]
  · have hthirds : compare (HalfLevel.thirds level half) (HalfLevel.thirds level' half') = .gt :=
      Nat.compare_eq_gt.mpr (by unfold HalfLevel.thirds; omega)
    rw [hthirds, Nat.compare_eq_gt.mpr hgt]
    rfl

namespace HalfComparison

variable {a b : Nat}

theorem eq_holds_compare : eq.holds (compare a b) = true ↔ a = b := by
  rw [← Nat.compare_eq_eq]
  cases compare a b <;> decide

theorem ge_holds_compare : ge.holds (compare a b) = true ↔ b ≤ a := by
  rw [← Std.isGE_compare]
  cases compare a b <;> decide

theorem le_holds_compare : le.holds (compare a b) = true ↔ a ≤ b := by
  rw [← Std.isLE_compare]
  cases compare a b <;> decide

end HalfComparison

/-! ## The part of a rating -/

namespace Number.Binary64

variable {x y z : Binary64}

theorem le_trans (hxy : x ≤ y) (hyz : y ≤ z) : x ≤ z := by
  obtain ⟨a, ha, b, hb, hab⟩ := hxy
  obtain ⟨b', hb', c, hc, hbc⟩ := hyz
  obtain rfl : b = b' := Option.some.inj (hb.symm.trans hb')
  exact ⟨a, ha, c, hc, Int.le_trans hab hbc⟩

/-- The order of finite numbers is that of their values. -/
theorem le_iff_toRat_le (hx : x.isFinite = true) (hy : y.isFinite = true) :
    x ≤ y ↔ x.toRat ≤ y.toRat := by
  obtain ⟨negative, units, h, rfl⟩ := exists_eq_finite hx
  obtain ⟨negative', units', h', rfl⟩ := exists_eq_finite hy
  have hone : (0 : ℚ) < unitsPerOne := by exact_mod_cast unitsPerOne_pos
  have hplace : finite negative units h ≤ finite negative' units' h' ↔
      (if negative then -(units : ℤ) else units) ≤ if negative' then -(units' : ℤ) else units' := by
    constructor
    · rintro ⟨_, ⟨⟩, _, ⟨⟩, hle⟩
      exact hle
    · intro hle
      exact ⟨_, rfl, _, rfl, hle⟩
  rw [hplace, toRat, toRat, div_le_div_iff_of_pos_right hone]
  exact_mod_cast Iff.rfl

end Number.Binary64

namespace HalfLevel

variable {rating rating' : Binary64}

theorem not_half_le_half : ¬ half false ≤ half true := by
  decide +kernel

theorem ofRating_eq_easier_iff : ofRating rating = easier ↔ rating ≤ half true := by
  rw [← Rating.satisfies_le_iff]
  show ofRating rating = easier ↔ Comparison.le.holds (rating.compare? (half true)) = true
  unfold ofRating
  split
  · simp [*]
  · split <;> simp [*]

theorem ofRating_eq_harder_iff : ofRating rating = harder ↔ half false ≤ rating := by
  constructor
  · intro h
    rw [← Rating.satisfies_ge_iff]
    show Comparison.ge.holds (rating.compare? (half false)) = true
    unfold ofRating at h
    split at h
    · cases h
    · split at h
      · assumption
      · cases h
  · intro h
    have hnot : ¬ rating ≤ half true := fun hle => not_half_le_half (Binary64.le_trans h hle)
    rw [← Rating.satisfies_le_iff] at hnot
    rw [← Rating.satisfies_ge_iff] at h
    exact (if_neg hnot).trans (if_pos h)

/-- The ratings of a part of a level. The halves belong to the outer parts. -/
def Covers : HalfLevel → ℚ → Prop
  | easier, q => q ≤ -(1 / 2)
  | middle, q => -(1 / 2) < q ∧ q < 1 / 2
  | harder, q => 1 / 2 ≤ q

theorem isFinite_half (negative : Bool) : (half negative).isFinite = true := by
  cases negative <;> decide +kernel

theorem toRat_half (negative : Bool) :
    (half negative).toRat = if negative then -(1 / 2) else 1 / 2 := by
  cases negative <;> decide +kernel

/-- A finite rating falls into the part that covers its value. -/
theorem ofRating_eq_iff (hfinite : rating.isFinite = true) {part : HalfLevel} :
    ofRating rating = part ↔ part.Covers rating.toRat := by
  have heasier : ofRating rating = easier ↔ rating.toRat ≤ -(1 / 2) := by
    rw [ofRating_eq_easier_iff, Binary64.le_iff_toRat_le hfinite (isFinite_half true), toRat_half]
    rfl
  have hharder : ofRating rating = harder ↔ 1 / 2 ≤ rating.toRat := by
    rw [ofRating_eq_harder_iff, Binary64.le_iff_toRat_le (isFinite_half false) hfinite, toRat_half]
    rfl
  cases part with
  | easier => exact heasier
  | harder => exact hharder
  | middle =>
    have hmiddle : ofRating rating = middle ↔
        ¬ ofRating rating = easier ∧ ¬ ofRating rating = harder := by
      cases ofRating rating <;> decide
    rw [hmiddle, heasier, hharder, not_le, not_le]
    rfl

/-- A greater rating falls into no lower part. -/
theorem rank_ofRating_mono (h : rating ≤ rating') :
    (ofRating rating).rank ≤ (ofRating rating').rank := by
  by_cases hharder : half false ≤ rating
  · have hharder' : half false ≤ rating' := Binary64.le_trans hharder h
    rw [ofRating_eq_harder_iff.mpr hharder, ofRating_eq_harder_iff.mpr hharder']
  · by_cases heasier : rating' ≤ half true
    · have heasier' : rating ≤ half true := Binary64.le_trans h heasier
      rw [ofRating_eq_easier_iff.mpr heasier, ofRating_eq_easier_iff.mpr heasier']
    · -- below not in the last part, above not in the first
      have hlow := rank_le_one (mt ofRating_eq_harder_iff.mp hharder)
      have hhigh := one_le_rank (mt ofRating_eq_easier_iff.mp heasier)
      omega

end HalfLevel

/-- Both charts are rated, and the first is of a lower level, or of the same level and rated
no higher. -/
def Chart.IsNoHarder (chart chart' : Chart) : Prop :=
  ∃ rating ∈ chart.rating, ∃ rating' ∈ chart'.rating,
    chart.level < chart'.level ∨ chart.level = chart'.level ∧ rating ≤ rating'

/-! ## Clauses about half levels -/

/-- How the clauses about a level and about its parts hang together, given what clauses a chart
satisfies. -/
structure RefinesLevel (satisfied : Condition → Prop) (n : UInt8) : Prop where
  exactly_one : satisfied (.level .eq n) → ∃! half, satisfied (.halfLevel .eq n half)
  none_otherwise : ¬ satisfied (.level .eq n) → ∀ half, ¬ satisfied (.halfLevel .eq n half)
  ge_easier : satisfied (.halfLevel .ge n .easier) ↔ satisfied (.level .ge n)
  le_harder : satisfied (.halfLevel .le n .harder) ↔ satisfied (.level .le n)
  ge_or_le : ∀ half, satisfied (.halfLevel .ge n half) ∨ satisfied (.halfLevel .le n half)
  ge_and_le : ∀ half, satisfied (.halfLevel .ge n half) ∧ satisfied (.halfLevel .le n half) ↔
    satisfied (.halfLevel .eq n half)
  ge_middle : satisfied (.halfLevel .ge n .middle) ↔
    satisfied (.halfLevel .ge n .easier) ∧ ¬ satisfied (.halfLevel .eq n .easier)
  ge_harder : satisfied (.halfLevel .ge n .harder) ↔
    satisfied (.halfLevel .ge n .middle) ∧ ¬ satisfied (.halfLevel .eq n .middle)
  ge_next : n < highestLevel → (satisfied (.halfLevel .ge (n + 1) .easier) ↔
    satisfied (.halfLevel .ge n .harder) ∧ ¬ satisfied (.halfLevel .eq n .harder))

namespace Condition

open HalfLevel

variable {chart chart' : Chart} {hardest : HardestOf}

/-- A rated chart is compared by its own number of thirds. -/
theorem accepts_halfLevel {rating : Binary64} (hrating : chart.rating = some rating)
    (comparison : HalfComparison) (n : UInt8) (half : HalfLevel) :
    (halfLevel comparison n half).accepts chart hardest =
      comparison.holds (compare (thirds chart.level (ofRating rating)) (thirds n half)) := by
  show chart.rating.any (fun r =>
    comparison.holds (compareHalves chart.level (ofRating r) n half)) = _
  rw [hrating, Option.any_some, compareHalves_eq]

theorem accepts_halfLevel_of_unrated (hrating : chart.rating = none)
    (comparison : HalfComparison) (n : UInt8) (half : HalfLevel) :
    (halfLevel comparison n half).accepts chart hardest = false := by
  show chart.rating.any _ = false
  rw [hrating, Option.any_none]

theorem accepts_level_eq_iff {n : UInt8} :
    (level .eq n).accepts chart hardest = true ↔ chart.level.toNat = n.toNat := by
  show (some (compare chart.level.toNat n.toNat) == some .eq) = true ↔ _
  rw [beq_iff_eq, Option.some.injEq, Nat.compare_eq_eq]

theorem toNat_add_one {n : UInt8} (h : n < highestLevel) : (n + 1).toNat = n.toNat + 1 := by
  have hlt : n.toNat < 50 := UInt8.lt_iff_toNat_lt.mp h
  rw [UInt8.toNat_add]
  show (n.toNat + 1) % 256 = n.toNat + 1
  omega

theorem refinesLevel_of_rated (hrated : chart.rating ≠ none) (n : UInt8) :
    RefinesLevel (fun c => c.accepts chart hardest = true) n := by
  obtain ⟨rating, hrating⟩ := Option.ne_none_iff_exists'.mp hrated
  have hrank := (ofRating rating).rank_le_two
  have heasier : rank easier = 0 := rfl
  have hmiddle : rank middle = 1 := rfl
  have hharder : rank harder = 2 := rfl
  constructor
  case exactly_one =>
    simp only [accepts_halfLevel hrating, accepts_level_eq_iff, HalfComparison.eq_holds_compare,
      thirds]
    intro hlevel
    refine ⟨ofRating rating, by omega, fun half hhalf => ?_⟩
    rw [← rank_inj]
    omega
  case none_otherwise =>
    simp only [accepts_halfLevel hrating, accepts_level_eq_iff, HalfComparison.eq_holds_compare,
      thirds]
    intro hlevel half
    have hhalf := half.rank_le_two
    omega
  case ge_next =>
    intro hn
    simp only [accepts_halfLevel hrating, HalfComparison.eq_holds_compare,
      HalfComparison.ge_holds_compare, thirds, toNat_add_one hn]
    omega
  all_goals
    simp only [accepts_halfLevel hrating, Selection.accepts_level_ge_iff,
      Selection.accepts_level_le_iff, HalfComparison.eq_holds_compare,
      HalfComparison.ge_holds_compare, HalfComparison.le_holds_compare, thirds]
    omega

/-- A chart is in a part of a level if it is of the level and the part covers its rating. -/
theorem accepts_halfLevel_eq_iff {rating : Binary64} (hrating : chart.rating = some rating)
    (hfinite : rating.isFinite = true) {n : UInt8} {half : HalfLevel} :
    (halfLevel .eq n half).accepts chart hardest = true ↔
      chart.level = n ∧ half.Covers rating.toRat := by
  have hrank := (ofRating rating).rank_le_two
  have hhalf := half.rank_le_two
  rw [accepts_halfLevel hrating, HalfComparison.eq_holds_compare, ← ofRating_eq_iff hfinite,
    ← rank_inj, ← UInt8.toNat_inj, thirds, thirds]
  omega

/-- A chart that is no harder than another has no more thirds. -/
theorem thirds_le_of_isNoHarder (h : chart.IsNoHarder chart') :
    ∃ rating rating', chart.rating = some rating ∧ chart'.rating = some rating' ∧
      thirds chart.level (ofRating rating) ≤ thirds chart'.level (ofRating rating') := by
  obtain ⟨rating, hrating, rating', hrating', horder⟩ := h
  refine ⟨rating, rating', hrating, hrating', ?_⟩
  unfold thirds
  rcases horder with hlevel | ⟨hlevel, hle⟩
  · have hlt := UInt8.lt_iff_toNat_lt.mp hlevel
    have hrank := (ofRating rating).rank_le_two
    omega
  · have hmono := rank_ofRating_mono hle
    rw [hlevel]
    omega

/-- Clauses about half levels refine those about the level. A rated chart of the level is in
exactly one of its parts, the one that covers the rating. The first part is reached with the
level and the last part ends with it; leaving out a part is reaching the next one, and after
the last part that is the first part of the next level. A chart that reaches a part is followed
by all charts that are no easier, and a chart that goes no further than a part by all charts
that are no harder. A chart without a rating satisfies no clause about half levels. -/
theorem halfLevel_refines_level {n : UInt8} (hn : lowestLevel ≤ n ∧ n ≤ highestLevel)
    (hardest : HardestOf) :
    ((∀ comparison, parse (level comparison n).text = .ok (level comparison n)) ∧
      ∀ comparison half,
        parse (halfLevel comparison n half).text = .ok (halfLevel comparison n half)) ∧
    (∀ chart : Chart, chart.rating ≠ none →
      RefinesLevel (fun c => c.accepts chart hardest = true) n) ∧
    (∀ (chart : Chart) (rating : Binary64), chart.rating = some rating →
      rating.isFinite = true → ∀ half, (halfLevel .eq n half).accepts chart hardest = true ↔
        chart.level = n ∧ half.Covers rating.toRat) ∧
    (∀ half (chart chart' : Chart), chart.IsNoHarder chart' →
      ((halfLevel .ge n half).accepts chart hardest = true →
        (halfLevel .ge n half).accepts chart' hardest = true) ∧
      ((halfLevel .le n half).accepts chart' hardest = true →
        (halfLevel .le n half).accepts chart hardest = true)) ∧
    ∀ chart : Chart, chart.rating = none → ∀ comparison half,
      (halfLevel comparison n half).accepts chart hardest = false := by
  refine ⟨⟨fun comparison => ?_, fun comparison half => ?_⟩,
    fun chart hrated => refinesLevel_of_rated hrated n,
    fun chart rating hrating hfinite half => accepts_halfLevel_eq_iff hrating hfinite,
    fun half chart chart' hno => ?_,
    fun chart hrating comparison half => accepts_halfLevel_of_unrated hrating comparison n half⟩
  · exact parse_text_of_not_isSplit (c := .level comparison n) hn id
  · exact parse_text_of_not_isSplit (c := .halfLevel comparison n half) hn id
  · obtain ⟨rating, rating', hrating, hrating', hle⟩ := thirds_le_of_isNoHarder hno
    simp only [accepts_halfLevel hrating, accepts_halfLevel hrating',
      HalfComparison.ge_holds_compare, HalfComparison.le_holds_compare]
    exact ⟨fun h => Nat.le_trans h hle, fun h => Nat.le_trans hle h⟩

/-- A chart at the end of the first part of its level. -/
def easierForty : Chart := (Chart.draft "1n" "1" .normal 40).apply (.rating (HalfLevel.half true))

/-- A chart of the next level with a lower rating. -/
def easierFortyOne : Chart :=
  (Chart.draft "2n" "2" .normal 41).apply (.rating (.nearest true 3 4))

theorem halfLevel_refines_level_forty :
    (lowestLevel ≤ 40 ∧ (40 : UInt8) ≤ highestLevel) ∧
    parse "lv>=40e" = .ok (.halfLevel .ge 40 .easier) ∧
    ((∃! half, (halfLevel .eq 40 half).accepts easierForty (fun _ => none) = true) ∧
      HalfLevel.easier.Covers (HalfLevel.half true).toRat) ∧
    (easierForty.IsNoHarder easierFortyOne ∧
      (halfLevel .ge 40 .easier).accepts easierForty (fun _ => none) = true ∧
      (halfLevel .ge 40 .easier).accepts easierFortyOne (fun _ => none) = true) ∧
    (halfLevel .le 40 .harder).accepts (Chart.draft "3n" "3" .normal 40) (fun _ => none) = false := by
  have hn : lowestLevel ≤ 40 ∧ (40 : UInt8) ≤ highestLevel := by decide
  obtain ⟨⟨-, hparse⟩, hrefines, hcovers, hmono, hunrated⟩ :=
    halfLevel_refines_level hn (fun _ => none)
  have hforty := hrefines easierForty (by simp [easierForty, Chart.apply])
  have hno : easierForty.IsNoHarder easierFortyOne := ⟨_, rfl, _, rfl, .inl (by decide)⟩
  have hge : (halfLevel .ge 40 .easier).accepts easierForty (fun _ => none) = true :=
    hforty.ge_easier.mpr rfl
  have hpart := (hcovers easierForty _ rfl (HalfLevel.isFinite_half true) .easier).mp (by
    decide +kernel)
  exact ⟨hn, hparse .ge .easier, ⟨hforty.exactly_one rfl, hpart.2⟩,
    ⟨hno, hge, (hmono .easier _ _ hno).1 hge⟩, hunrated _ rfl .le .harder⟩

end Condition

end ChartCatalog
