import ChartCatalog.Number.Binary64

/-!
# Rounding to binary

Rounding a quotient to even is a matter of distances (`roundDiv_toEven_eq_iff`), so
what lies no farther from the rounded value is rounded to it as well.

What `nearest` gives. It takes a fraction to the representable number that lies
nearest to it (`nearestUnits_nearest`), it does not depend on how the fraction
is written (`nearest_eq_of_mul_eq`), and it leaves a representable number as it
is (`nearestUnits_one`). Reading a decimal is rounding the fraction that the
decimal stands for (`ofDecimal_eq_nearest`): the two outer bounds of `ofDecimal`
save work and decide nothing.
-/

namespace ChartCatalog.Number

/-! ## The nearest whole number -/

theorem roundDiv_nearest (tie : Tie) (n : Nat) {d : Nat} (hd : 0 < d) (k : Nat) :
    ((roundDiv tie n d * d : Nat) - n : Int).natAbs ≤ ((k * d : Nat) - n : Int).natAbs := by
  have hdiv : n / d * d + n % d = n := by
    rw [Nat.mul_comm]
    exact Nat.div_add_mod n d
  have hmod := Nat.mod_lt n hd
  have hsucc : (n / d + 1) * d = n / d * d + d := Nat.succ_mul _ _
  -- no multiple lies strictly between the two neighbours
  have hk : k * d ≤ n / d * d ∨ (n / d + 1) * d ≤ k * d := by
    rcases Nat.lt_or_ge (n / d) k with h | h
    · exact .inr (Nat.mul_le_mul_right d h)
    · exact .inl (Nat.mul_le_mul_right d h)
  unfold roundDiv
  dsimp only
  split
  · omega
  · split
    · omega
    · -- in the middle both neighbours are equally near
      have heven : n / d + n / d % 2 = n / d ∨ n / d + n / d % 2 = n / d + 1 := by omega
      cases tie with
      | toEven =>
        dsimp only
        rcases heven with h | h <;> rw [h] <;> omega
      | up =>
        dsimp only
        omega

/-- A quotient is rounded to the whole number at most half away from it, and from the
middle to the even one. -/
theorem roundDiv_toEven_eq_iff {n d k : Nat} (hd : 0 < d) : roundDiv .toEven n d = k ↔
    2 * ((k * d : Nat) - n : Int).natAbs < d ∨
      2 * ((k * d : Nat) - n : Int).natAbs = d ∧ k % 2 = 0 := by
  have hdiv : n / d * d + n % d = n := by
    rw [Nat.mul_comm]
    exact Nat.div_add_mod n d
  have hmod := Nat.mod_lt n hd
  have hsucc : (n / d + 1) * d = n / d * d + d := Nat.succ_mul _ _
  unfold roundDiv
  dsimp only
  constructor
  · rintro rfl
    split
    · left
      omega
    · split
      · left
        omega
      · right
        have heven : n / d + n / d % 2 = n / d ∨ n / d + n / d % 2 = n / d + 1 := by omega
        refine ⟨?_, by omega⟩
        rcases heven with h | h <;> rw [h] <;> omega
  · intro hk
    -- only the two neighbours are at most half away
    have hneighbour : k = n / d ∨ k = n / d + 1 := by
      rcases Nat.lt_trichotomy k (n / d) with hlow | heq | hhigh
      · have hle := Nat.mul_le_mul_right d hlow
        rw [Nat.succ_mul] at hle
        omega
      · exact .inl heq
      · rcases Nat.lt_or_ge (n / d + 1) k with hfar | hnear
        · have hle := Nat.mul_le_mul_right d hfar
          rw [Nat.succ_mul, hsucc] at hle
          omega
        · exact .inr (by omega)
    rcases hneighbour with rfl | rfl
    · split
      · rfl
      · split <;> omega
    · rw [hsucc] at hk
      split
      · omega
      · split
        · rfl
        · omega

/-- A quotient that is at least as near to the rounded value is rounded to it as well. -/
theorem roundDiv_toEven_eq_of_nearer {n n' d : Nat} (hd : 0 < d)
    (h : ((roundDiv .toEven n d * d : Nat) - n' : Int).natAbs ≤
      ((roundDiv .toEven n d * d : Nat) - n : Int).natAbs) :
    roundDiv .toEven n' d = roundDiv .toEven n d := by
  rcases (roundDiv_toEven_eq_iff hd).mp (Eq.refl (roundDiv .toEven n d)) with hless | ⟨hhalf, heven⟩
  · exact (roundDiv_toEven_eq_iff hd).mpr (.inl (by omega))
  · rcases Nat.lt_or_ge (2 * ((roundDiv .toEven n d * d : Nat) - n' : Int).natAbs) d with hlt | hge
    · exact (roundDiv_toEven_eq_iff hd).mpr (.inl hlt)
    · exact (roundDiv_toEven_eq_iff hd).mpr (.inr ⟨by omega, heven⟩)

theorem roundDiv_eq_zero (tie : Tie) {n d : Nat} (h : 2 * n < d) : roundDiv tie n d = 0 := by
  have hlt : n < d := by omega
  simp only [roundDiv, Nat.div_eq_of_lt hlt, Nat.mod_eq_of_lt hlt, if_pos h]

namespace Binary64

/-! ## The nearest representable number -/

/-- A representable number is a multiple of every power of two that leaves it at
most 53 binary digits. -/
theorem dvd_of_representable {units shift : Nat} (h : Representable units)
    (hshift : shift ≤ units.log2 - 52) : 1 <<< shift ∣ units := by
  refine Nat.dvd_trans ?_ h.aligned
  rw [Nat.one_shiftLeft, Nat.one_shiftLeft]
  exact Nat.pow_dvd_pow 2 hshift

/-- No representable number is nearer to the quotient. -/
theorem nearestUnits_nearest (n : Nat) {d units : Nat} (hd : 0 < d) (h : Representable units) :
    ((nearestUnits n d * d : Nat) - n : Int).natAbs ≤ ((units * d : Nat) - n : Int).natAbs := by
  have hmultiple : ∀ k, ((nearestUnits n d * d : Nat) - n : Int).natAbs ≤
      ((k * 2 ^ ((n / d).log2 - 52) * d : Nat) - n : Int).natAbs := by
    intro k
    have hpos : 0 < d * 2 ^ ((n / d).log2 - 52) := Nat.mul_pos hd (Nat.two_pow_pos _)
    have hk := roundDiv_nearest .toEven n hpos k
    simp only [nearestUnits, Nat.shiftLeft_eq]
    rwa [Nat.mul_assoc, Nat.mul_comm _ d, Nat.mul_assoc, Nat.mul_comm _ d]
  rcases Nat.lt_or_ge (units.log2 - 52) ((n / d).log2 - 52) with hlog | hlog
  · -- the number has fewer digits than the quotient: the power of two between
    -- them is nearer
    have hne : n / d ≠ 0 := by
      intro h0
      rw [h0] at hlog
      simp at hlog
    have hlog' : units.log2 < (n / d).log2 := by omega
    have hunits : units < 2 ^ (n / d).log2 := by
      by_cases h0 : units = 0
      · rw [h0]
        exact Nat.two_pow_pos _
      · exact (Nat.log2_lt h0).mp hlog'
    have hpower : 2 ^ (n / d).log2 ≤ n / d := Nat.log2_self_le hne
    have hbetween := hmultiple (2 ^ 52)
    rw [← Nat.pow_add, show 52 + ((n / d).log2 - 52) = (n / d).log2 by omega] at hbetween
    have hlow : units * d ≤ 2 ^ (n / d).log2 * d := Nat.mul_le_mul_right d (Nat.le_of_lt hunits)
    have hhigh : 2 ^ (n / d).log2 * d ≤ n :=
      Nat.le_trans (Nat.mul_le_mul_right d hpower) (Nat.div_mul_le_self n d)
    omega
  · obtain ⟨k, hk⟩ := dvd_of_representable h hlog
    rw [Nat.one_shiftLeft] at hk
    have := hmultiple k
    rwa [Nat.mul_comm k, ← hk] at this

/-- A representable number is not changed. -/
theorem nearestUnits_one {units : Nat} (h : Representable units) :
    nearestUnits units 1 = units := by
  obtain ⟨k, hk⟩ := dvd_of_representable h (Nat.le_refl _)
  have hround : roundDiv .toEven (k * (1 <<< (units.log2 - 52))) (1 <<< (units.log2 - 52)) = k := by
    refine roundDiv_mul_self .toEven k ?_
    rw [Nat.one_shiftLeft]
    exact Nat.two_pow_pos _
  rw [Nat.mul_comm, ← hk] at hround
  simp only [nearestUnits, Nat.div_one, hround]
  rw [Nat.shiftLeft_eq, Nat.mul_comm, ← Nat.one_shiftLeft]
  exact hk.symm

/-! ## Finite numbers -/

/-- A finite number is a number of units with a sign. -/
theorem exists_eq_finite {x : Binary64} (h : x.isFinite = true) :
    ∃ negative units hunits, x = .finite negative units hunits := by
  cases x with
  | finite negative units hunits => exact ⟨negative, units, hunits, rfl⟩
  | infinite negative => exact absurd h Bool.false_ne_true
  | nan => exact absurd h Bool.false_ne_true

/-! ## Fractions -/

theorem nearestUnits_mul_mul {k : Nat} (hk : 0 < k) (n d : Nat) :
    nearestUnits (k * n) (k * d) = nearestUnits n d := by
  simp only [nearestUnits, Nat.mul_div_mul_left n d hk, Nat.shiftLeft_eq]
  rw [Nat.mul_assoc, roundDiv_mul_mul .toEven hk]

theorem ofUnits_eq_finite {negative : Bool} {n d units : Nat} (hunits : nearestUnits n d = units)
    (h : Representable units) : ofUnits negative n d = .finite negative units h := by
  subst hunits
  exact dif_pos h.lt_limit

theorem nearestUnits_of_ofUnits {negative negative' : Bool} {n d units : Nat}
    {h : Representable units} (heq : ofUnits negative n d = .finite negative' units h) :
    nearestUnits n d = units := by
  unfold ofUnits at heq
  split at heq
  · exact (Binary64.finite.inj heq).2
  · exact absurd heq (by simp)

theorem ofUnits_congr {negative : Bool} {n d n' d' : Nat}
    (h : nearestUnits n d = nearestUnits n' d') : ofUnits negative n d = ofUnits negative n' d' := by
  simp only [ofUnits, h]

/-- The number is that of the fraction, however the fraction is written. -/
theorem nearest_eq_of_mul_eq {negative : Bool} {n d n' d' : Nat} (hd : 0 < d) (hd' : 0 < d')
    (h : n * d' = n' * d) : nearest negative n d = nearest negative n' d' := by
  apply ofUnits_congr
  calc nearestUnits (n * unitsPerOne) d
      = nearestUnits (d' * (n * unitsPerOne)) (d' * d) := (nearestUnits_mul_mul hd' _ _).symm
    _ = nearestUnits (d * (n' * unitsPerOne)) (d * d') := by
        rw [← Nat.mul_assoc, ← Nat.mul_assoc, Nat.mul_comm d' n, h, Nat.mul_comm n' d,
          Nat.mul_comm d' d]
    _ = nearestUnits (n' * unitsPerOne) d' := nearestUnits_mul_mul hd _ _

/-! ## Bounds -/

theorem unitLimit_eq : unitLimit = 1 <<< (53 + largestShift) := by
  simp only [unitLimit, Nat.shiftLeft_eq, Nat.one_mul, Nat.pow_add]

/-- Quotients from the limit on are not finite. -/
theorem unitLimit_le_nearestUnits {n d : Nat} (h : unitLimit ≤ n / d) :
    unitLimit ≤ nearestUnits n d := by
  have hne : n / d ≠ 0 := by
    have := unitLimit_pos
    omega
  have hlog : 53 + largestShift ≤ (n / d).log2 := by
    rw [Nat.le_log2 hne, ← Nat.one_shiftLeft, ← unitLimit_eq]
    exact h
  have hshift : 52 + ((n / d).log2 - 52) = (n / d).log2 := by omega
  have hquotient : 2 ^ 52 ≤ n / (d <<< ((n / d).log2 - 52)) := by
    rw [Nat.shiftLeft_eq, ← Nat.div_div_eq_div_mul, Nat.le_div_iff_mul_le (Nat.two_pow_pos _),
      ← Nat.pow_add, hshift]
    exact Nat.log2_self_le hne
  calc unitLimit = 2 ^ (53 + largestShift) := by rw [unitLimit_eq, Nat.one_shiftLeft]
    _ ≤ 2 ^ (n / d).log2 := Nat.pow_le_pow_right (by decide) hlog
    _ = 2 ^ 52 * 2 ^ ((n / d).log2 - 52) := by rw [← Nat.pow_add, hshift]
    _ ≤ nearestUnits n d := by
        rw [nearestUnits, Nat.shiftLeft_eq]
        exact Nat.mul_le_mul_right _ (Nat.le_trans hquotient (div_le_roundDiv _ _ _))

theorem nearestUnits_eq_zero {n d : Nat} (h : 2 * n < d) : nearestUnits n d = 0 := by
  have hdiv : n / d = 0 := Nat.div_eq_of_lt (by omega)
  simp only [nearestUnits, hdiv, Nat.log2_zero, Nat.zero_sub, Nat.shiftLeft_zero,
    roundDiv_eq_zero .toEven h]

theorem two_pow_le_powerOfTen (e : Nat) : 1 <<< (3 * e) ≤ powerOfTen e := by
  induction e with
  | zero => exact Nat.le_refl _
  | succ e ih =>
    rw [Nat.one_shiftLeft] at ih ⊢
    rw [powerOfTen_succ, show 3 * (e + 1) = 3 * e + 3 by omega, Nat.pow_add]
    omega

theorem shiftLeft_mul_shiftLeft (k m : Nat) : (1 <<< k) * (1 <<< m) = 1 <<< (k + m) := by
  rw [Nat.one_shiftLeft, Nat.one_shiftLeft, Nat.one_shiftLeft, Nat.pow_add]

theorem one_shiftLeft_le {a b : Nat} (h : a ≤ b) : 1 <<< a ≤ 1 <<< b := by
  rw [Nat.one_shiftLeft, Nat.one_shiftLeft]
  exact Nat.pow_le_pow_right (by decide) h

theorem lt_shiftLeft_log2 (n : Nat) : n < 1 <<< (n.log2 + 1) := by
  rw [Nat.one_shiftLeft]
  exact Nat.lt_log2_self

theorem unitLimit_le_of_large {e : Nat} (h : 400 < e) : unitLimit ≤ powerOfTen e * unitsPerOne := by
  have hbits : 53 + largestShift ≤ 3 * e + 1074 := by
    unfold largestShift
    omega
  calc unitLimit = 1 <<< (53 + largestShift) := unitLimit_eq
    _ ≤ 1 <<< (3 * e + 1074) := one_shiftLeft_le hbits
    _ = (1 <<< (3 * e)) * unitsPerOne := (shiftLeft_mul_shiftLeft _ _).symm
    _ ≤ powerOfTen e * unitsPerOne := Nat.mul_le_mul_right _ (two_pow_le_powerOfTen e)

theorem shiftLeft_pos (k : Nat) : 0 < 1 <<< k := by
  rw [Nat.one_shiftLeft]
  exact Nat.two_pow_pos k

theorem unitsPerOne_pos : 0 < unitsPerOne := shiftLeft_pos 1074

theorem lt_powerOfTen_of_small {coefficient e : Nat} (h : 400 + coefficient.log2 < e) :
    2 * (coefficient * unitsPerOne) < powerOfTen e := by
  calc 2 * (coefficient * unitsPerOne) < 2 * ((1 <<< (coefficient.log2 + 1)) * unitsPerOne) :=
        Nat.mul_lt_mul_of_pos_left
          (Nat.mul_lt_mul_of_pos_right (lt_shiftLeft_log2 coefficient) unitsPerOne_pos) (by decide)
    _ = (1 <<< 1) * (1 <<< (coefficient.log2 + 1 + 1074)) :=
        congrArg (2 * ·) (shiftLeft_mul_shiftLeft _ _)
    _ = 1 <<< (1 + (coefficient.log2 + 1 + 1074)) := shiftLeft_mul_shiftLeft _ _
    _ ≤ 1 <<< (3 * e) := one_shiftLeft_le (by omega)
    _ ≤ powerOfTen e := two_pow_le_powerOfTen e

/-- Between a representable number and the limit there is room for one. -/
theorem add_unitsPerOne_le_unitLimit {units : Nat} (h : Representable units) :
    units + unitsPerOne ≤ unitLimit := by
  have hlimit : unitLimit = unitsPerOne * (1 <<< 1024) :=
    unitLimit_eq.trans (shiftLeft_mul_shiftLeft 1074 1024).symm
  by_cases hlarge : 1074 ≤ units.log2 - 52
  · -- both are multiples of one
    obtain ⟨k, hk⟩ := dvd_of_representable h hlarge
    have hlt := h.lt_limit
    rw [hk] at hlt ⊢
    rw [hlimit] at hlt ⊢
    exact Nat.mul_le_mul_left unitsPerOne (Nat.lt_of_mul_lt_mul_left hlt)
  · -- the number is far below the limit
    have hunits : units < 1 <<< 1126 :=
      Nat.lt_of_lt_of_le (lt_shiftLeft_log2 units) (one_shiftLeft_le (by omega))
    calc units + unitsPerOne ≤ 1 <<< 1126 + 1 <<< 1126 :=
          Nat.add_le_add (Nat.le_of_lt hunits) (one_shiftLeft_le (by decide))
      _ = (1 <<< 1126) * (1 <<< 1) := (Nat.mul_two _).symm
      _ = 1 <<< 1127 := shiftLeft_mul_shiftLeft 1126 1
      _ ≤ unitLimit := by
          rw [unitLimit_eq]
          exact one_shiftLeft_le (by decide)

/-! ## Decimals -/

/-- Reading a decimal is rounding a fraction. -/
theorem ofDecimal_eq_nearest (negative : Bool) (coefficient : Nat) (exponent : Int) :
    ofDecimal negative coefficient exponent =
      nearest negative (coefficient * powerOfTen exponent.toNat) (powerOfTen (-exponent).toNat) := by
  have htiny : ∀ {n d : Nat}, 2 * (n * unitsPerOne) < d →
      zero negative = nearest negative n d := fun h =>
    (ofUnits_eq_finite (nearestUnits_eq_zero h) representable_zero).symm
  unfold ofDecimal
  by_cases h0 : coefficient = 0
  · rw [if_pos h0, h0, Nat.zero_mul]
    refine htiny ?_
    rw [Nat.zero_mul]
    exact powerOfTen_pos _
  rw [if_neg h0]
  by_cases hlarge : 400 < exponent
  · -- infinite, because one unit less than the power is
    rw [if_pos hlarge, show (-exponent).toNat = 0 by omega, powerOfTen_zero]
    have hlimit : unitLimit ≤ coefficient * powerOfTen exponent.toNat * unitsPerOne / 1 := by
      rw [Nat.div_one, Nat.mul_assoc]
      exact Nat.le_trans (unitLimit_le_of_large (by omega))
        (Nat.le_mul_of_pos_left _ (Nat.pos_of_ne_zero h0))
    rw [nearest, ofUnits, dif_neg (Nat.not_lt.mpr (unitLimit_le_nearestUnits hlimit))]
  rw [if_neg hlarge]
  by_cases hsmall : exponent < -(400 + coefficient.log2)
  · rw [if_pos hsmall, show exponent.toNat = 0 by omega, powerOfTen_zero, Nat.mul_one]
    exact htiny (lt_powerOfTen_of_small (by omega))
  rw [if_neg hsmall]
  cases exponent with
  | ofNat e =>
    rw [show (-(Int.ofNat e)).toNat = 0 by simp, powerOfTen_zero]
    rfl
  | negSucc e =>
    rw [show (Int.negSucc e).toNat = 0 from rfl, powerOfTen_zero, Nat.mul_one]
    rfl

end Binary64

end ChartCatalog.Number
