/-!
# Rounding a quotient

`roundDiv tie n d` is the whole number nearest to `n / d`. A quotient halfway
between two whole numbers goes where `tie` says. Both the digits kept in a text
and the bits kept in a binary number come from this one function.
-/

namespace ChartCatalog.Number

/-- Where a quotient halfway between two whole numbers goes. -/
inductive Tie
  | toEven
  | up
  deriving DecidableEq

/-- The whole number nearest to `n / d`. -/
def roundDiv (tie : Tie) (n d : Nat) : Nat :=
  let quotient := n / d
  let twice := 2 * (n % d)
  if twice < d then quotient
  else if d < twice then quotient + 1
  else match tie with
    | .toEven => quotient + quotient % 2
    | .up => quotient + 1

/-- Rounding never goes below the whole part of the quotient. -/
theorem div_le_roundDiv (tie : Tie) (n d : Nat) : n / d ≤ roundDiv tie n d := by
  unfold roundDiv
  dsimp only
  split
  · -- below the middle: the whole part itself
    exact Nat.le_refl _
  · split
    · -- above the middle
      exact Nat.le_succ _
    · -- in the middle
      cases tie with
      | toEven => exact Nat.le_add_right _ _
      | up => exact Nat.le_succ _

/-- Rounding goes at most one above the whole part of the quotient. -/
theorem roundDiv_le_div_add_one (tie : Tie) (n d : Nat) : roundDiv tie n d ≤ n / d + 1 := by
  unfold roundDiv
  dsimp only
  split
  · -- below the middle: the whole part itself
    exact Nat.le_succ _
  · split
    · -- above the middle
      exact Nat.le_refl _
    · -- in the middle
      cases tie with
      | toEven => exact Nat.add_le_add_left (Nat.le_of_lt_succ (Nat.mod_lt _ (by decide))) _
      | up => exact Nat.le_refl _

/-- A whole quotient is not changed. -/
theorem roundDiv_mul_self (tie : Tie) (q : Nat) {d : Nat} (hd : 0 < d) :
    roundDiv tie (q * d) d = q := by
  simp [roundDiv, Nat.mul_div_cancel q hd, hd]

/-- The value depends on the quotient alone, not on how it is written. -/
theorem roundDiv_mul_mul (tie : Tie) {k : Nat} (hk : 0 < k) (n d : Nat) :
    roundDiv tie (k * n) (k * d) = roundDiv tie n d := by
  -- both comparisons with the middle survive the common factor
  have below : ∀ x, (2 * (k * x) < k * d) = (2 * x < d) := by
    intro x
    rw [Nat.mul_left_comm, Nat.mul_lt_mul_left hk]
  have above : ∀ x, (k * d < 2 * (k * x)) = (d < 2 * x) := by
    intro x
    rw [Nat.mul_left_comm, Nat.mul_lt_mul_left hk]
  simp only [roundDiv, Nat.mul_div_mul_left n d hk, Nat.mul_mod_mul_left, below, above]

end ChartCatalog.Number
