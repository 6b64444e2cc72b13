import ChartCatalog.Number.Scaled
import ChartCatalog.Proofs.Number.Nearest

/-!
# Scaling that is exact

Reading by scaling rounds the significand, the power of ten and the result. Below
`2 ^ 53` a significand needs no rounding, and neither do the powers up to the
twenty-second, since `5 ^ 22` is below `2 ^ 53`. Then the only rounding is that of
the result, which gives the nearest number (`scaled?_eq_of_exact`).
-/

namespace ChartCatalog.Number

/-- The exponent of the largest power of ten that is not rounded. -/
def exactPower : Nat := 22

namespace Binary64

/-- A whole number that a significand can hold. -/
theorem representable_mul_unitsPerOne {m : Nat} (h : m < 1 <<< 53) :
    Representable (m * unitsPerOne) := by
  have hshift : m * unitsPerOne = m <<< 1074 := by
    rw [unitsPerOne, Nat.shiftLeft_eq m, Nat.one_shiftLeft]
  rw [hshift]
  exact representable_shiftLeft (Nat.le_of_lt h) (shiftLeft_lt_limit h (by decide))

theorem powerUnits_eq {e : Nat} (h : e ≤ exactPower) :
    powerUnits e = powerOfTen e * unitsPerOne := by
  have all : ∀ e : Fin (exactPower + 1), Representable (powerOfTen e * unitsPerOne) := by
    decide +kernel
  exact nearestUnits_one (all ⟨e, Nat.lt_succ_of_le h⟩)

theorem nearestUnits_mul_right {k : Nat} (hk : 0 < k) (n d : Nat) :
    nearestUnits (n * k) (d * k) = nearestUnits n d := by
  rw [Nat.mul_comm n, Nat.mul_comm d, nearestUnits_mul_mul hk]

/-- A significand divided by an exact power is rounded once. -/
theorem divideByPower_eq {e : Nat} (h : e ≤ exactPower) (m : Nat) :
    divideByPower (m * unitsPerOne) e = nearestUnits (m * unitsPerOne) (powerOfTen e) := by
  have hlargest : e ≤ largestPower := Nat.le_trans h (by decide)
  rw [divideByPower, if_pos hlargest, powerUnits_eq h, nearestUnits_mul_right unitsPerOne_pos]

/-- Scaling gives the nearest number if it rounds neither the significand nor the
power. -/
theorem scaled?_eq_of_exact {negative : Bool} {significand units : Nat} {exponent : Int}
    {h : Representable units} (hsignificand : significand < 1 <<< 53)
    (hexponent : exponent.natAbs ≤ exactPower)
    (hnearest : ofDecimal negative significand exponent = .finite negative units h) :
    scaled? negative significand exponent = some (.finite negative units h) := by
  have hexact := nearestUnits_one (representable_mul_unitsPerOne hsignificand)
  rw [ofDecimal_eq_nearest] at hnearest
  unfold scaled?
  dsimp only
  rw [hexact]
  by_cases hzero : significand * unitsPerOne = 0
  · have hsignificand : significand = 0 :=
      (Nat.mul_eq_zero.mp hzero).resolve_right (Nat.ne_of_gt unitsPerOne_pos)
    rw [hsignificand, Nat.zero_mul] at hnearest
    have hunits : nearestUnits (0 * unitsPerOne) (powerOfTen (-exponent).toNat) = 0 := by
      rw [Nat.zero_mul]
      exact nearestUnits_eq_zero (powerOfTen_pos _)
    rw [if_pos hzero, ← hnearest, nearest, ofUnits_eq_finite hunits representable_zero]
    rfl
  · rw [if_neg hzero]
    cases exponent with
    | ofNat e =>
      have hpower : e ≤ exactPower := hexponent
      have hlargest : e ≤ largestPower := Nat.le_trans hpower (by decide)
      have hvalue : ofUnits negative (significand * unitsPerOne * powerUnits e) unitsPerOne =
          .finite negative units h := by
        rw [← hnearest]
        apply ofUnits_congr
        have hone := nearestUnits_mul_right unitsPerOne_pos
          (significand * powerOfTen e * unitsPerOne) 1
        rw [Nat.one_mul] at hone
        rw [powerUnits_eq hpower, ← Nat.mul_assoc, Nat.mul_right_comm significand, hone,
          show (-(Int.ofNat e)).toNat = 0 by simp, powerOfTen_zero]
        rfl
      simp only [if_pos hlargest, hvalue]
      rfl
    | negSucc e =>
      have hpower : e + 1 ≤ exactPower := hexponent
      have hvalue : ofUnits negative (divideByPower (significand * unitsPerOne) (e + 1)) 1 =
          .finite negative units h := by
        have hunits := nearestUnits_of_ofUnits hnearest
        rw [show (Int.negSucc e).toNat = 0 from rfl, powerOfTen_zero, Nat.mul_one] at hunits
        rw [divideByPower_eq hpower]
        refine ofUnits_eq_finite ?_ h
        exact (congrArg (nearestUnits · 1) hunits).trans (nearestUnits_one h)
      simp only [hvalue]
      rfl

end Binary64

end ChartCatalog.Number
