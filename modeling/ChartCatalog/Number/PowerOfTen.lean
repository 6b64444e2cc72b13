/-!
# Powers of ten

Decimals are scaled by powers of ten, with exponents from zero on; a negative
exponent divides by the power instead.
-/

namespace ChartCatalog.Number

/-- One with `e` zeros. -/
def powerOfTen (e : Nat) : Nat := Nat.pow 10 e

@[simp] theorem powerOfTen_zero : powerOfTen 0 = 1 := rfl

theorem powerOfTen_succ (e : Nat) : powerOfTen (e + 1) = powerOfTen e * 10 := rfl

theorem powerOfTen_pos (e : Nat) : 0 < powerOfTen e := by
  induction e with
  | zero => exact Nat.one_pos
  | succ e ih => rw [powerOfTen_succ]; omega

end ChartCatalog.Number
