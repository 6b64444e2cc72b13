import Mathlib.Data.Rat.Floor
import Mathlib.Tactic.FieldSimp
import Mathlib.Tactic.Linarith
import Mathlib.Tactic.NormNum
import Mathlib.Tactic.Push
import ChartCatalog.Proofs.Number.Nearest

/-!
# Rounding rational numbers

Every finite binary number is a rational number (`Binary64.toRat`). `roundHalfEven` rounds
rational numbers to whole ones; it is determined by what `IsRounded` says, so it is the
same for a number and its negative (`roundHalfEven_neg`), keeps the order
(`roundHalfEven_mono`), and is what rounding a quotient of natural numbers to even
computes (`roundHalfEven_div`).
-/

namespace ChartCatalog.Number

/-- The number as a fraction; infinities and `nan` have no value of their own. -/
def Binary64.toRat : Binary64 → ℚ
  | .finite negative units _ => (if negative then -(units : ℚ) else units) / unitsPerOne
  | .infinite _ | .nan => 0

/-- The whole number nearest to a rational number, the even one of two that are equally
near. -/
def roundHalfEven (q : ℚ) : ℤ :=
  if Int.fract q < 1 / 2 then ⌊q⌋
  else if 1 / 2 < Int.fract q then ⌊q⌋ + 1
  else ⌊q⌋ + ⌊q⌋ % 2

/-- No whole number is nearer, and if another one is as near, this one is even. -/
structure IsRounded (q : ℚ) (k : ℤ) : Prop where
  near : |q - k| ≤ 1 / 2
  even_of_tie : |q - k| = 1 / 2 → Even k

variable {q q' : ℚ} {k k' : ℤ}

theorem isRounded_roundHalfEven (q : ℚ) : IsRounded q (roundHalfEven q) := by
  have hparts : (⌊q⌋ : ℚ) + Int.fract q = q := Int.floor_add_fract q
  have hnonneg := Int.fract_nonneg q
  have hlt := Int.fract_lt_one q
  unfold roundHalfEven
  split
  next hlow =>
    have habs : |q - ⌊q⌋| = Int.fract q := abs_of_nonneg hnonneg
    exact ⟨by linarith, fun htie => by linarith⟩
  next hlow =>
    split
    next hhigh =>
      have habs : |q - (⌊q⌋ + 1 : ℤ)| = 1 - Int.fract q := by
        rw [abs_sub_comm, abs_of_nonneg (by push_cast; linarith)]
        push_cast
        linarith
      exact ⟨by linarith, fun htie => by linarith⟩
    next hhigh =>
      -- in the middle: the floor if it is even, else the number after it
      have hhalf : Int.fract q = 1 / 2 := le_antisymm (not_lt.mp hhigh) (not_lt.mp hlow)
      have heven : Even (⌊q⌋ + ⌊q⌋ % 2) := by
        rw [Int.even_iff]
        omega
      refine ⟨?_, fun _ => heven⟩
      rcases Int.emod_two_eq_zero_or_one ⌊q⌋ with hmod | hmod
      · rw [hmod, abs_le]
        push_cast
        constructor <;> linarith
      · rw [hmod, abs_le]
        push_cast
        constructor <;> linarith

/-- Only one whole number is nearest, or even and nearest. -/
theorem IsRounded.unique (h : IsRounded q k) (h' : IsRounded q k') : k = k' := by
  -- if the one were above the other, both would be half away, and both even
  have hle : ∀ {k k' : ℤ}, IsRounded q k → IsRounded q k' → k ≤ k' := by
    intro k k' h h'
    by_contra hlt
    have hsucc : k' + 1 ≤ k := by omega
    have hsucc' : (k' : ℚ) + 1 ≤ k := by exact_mod_cast hsucc
    have hnear := abs_le.mp h.near
    have hnear' := abs_le.mp h'.near
    have hk : q - k = -(1 / 2) := by linarith
    have hk' : q - k' = 1 / 2 := by linarith
    have heven := h.even_of_tie (by rw [hk, abs_neg, abs_of_pos (by norm_num)])
    have heven' := h'.even_of_tie (by rw [hk', abs_of_pos (by norm_num)])
    have hone : (k : ℚ) = k' + 1 := by linarith
    have hone' : k = k' + 1 := by exact_mod_cast hone
    rw [Int.even_iff] at heven heven'
    omega
  exact le_antisymm (hle h h') (hle h' h)

theorem IsRounded.roundHalfEven_eq (h : IsRounded q k) : roundHalfEven q = k :=
  (isRounded_roundHalfEven q).unique h

theorem roundHalfEven_neg (q : ℚ) : roundHalfEven (-q) = -roundHalfEven q := by
  have h := isRounded_roundHalfEven q
  have habs : |-q - (-roundHalfEven q : ℤ)| = |q - roundHalfEven q| := by
    rw [← abs_neg]
    push_cast
    ring_nf
  refine IsRounded.roundHalfEven_eq ⟨?_, fun htie => ?_⟩
  · rw [habs]
    exact h.near
  · rw [habs] at htie
    exact (h.even_of_tie htie).neg

/-- Rounding keeps the order. -/
theorem roundHalfEven_mono (h : q ≤ q') : roundHalfEven q ≤ roundHalfEven q' := by
  by_contra hlt
  have hsucc : roundHalfEven q' + 1 ≤ roundHalfEven q := by omega
  have hsucc' : (roundHalfEven q' : ℚ) + 1 ≤ roundHalfEven q := by exact_mod_cast hsucc
  have hnear := abs_le.mp (isRounded_roundHalfEven q).near
  have hnear' := abs_le.mp (isRounded_roundHalfEven q').near
  have heq : q = q' := by linarith
  rw [heq] at hsucc
  omega

/-- Numbers that round alike are at most one apart. -/
theorem abs_sub_le_of_roundHalfEven_eq (h : roundHalfEven q = roundHalfEven q') :
    |q - q'| ≤ 1 := by
  have hnear := abs_le.mp (isRounded_roundHalfEven q).near
  have hnear' := abs_le.mp (isRounded_roundHalfEven q').near
  rw [h] at hnear
  rw [abs_le]
  constructor <;> linarith

/-! ## Quotients -/

theorem isRounded_roundDiv (n : Nat) {d : Nat} (hd : 0 < d) :
    IsRounded ((n : ℚ) / d) (roundDiv .toEven n d) := by
  have hd' : (0 : ℚ) < d := by exact_mod_cast hd
  -- the distance of the two, in parts of the divisor
  have hdistance : |(n : ℚ) / d - (roundDiv .toEven n d : ℤ)| * d =
      (((roundDiv .toEven n d * d : Nat) - n : Int).natAbs : ℚ) := by
    have habs : |(d : ℚ)| = d := abs_of_pos hd'
    rw [← habs, ← abs_mul, sub_mul, habs, div_mul_cancel₀ _ hd'.ne', abs_sub_comm,
      Nat.cast_natAbs]
    push_cast
    rfl
  have hround := (roundDiv_toEven_eq_iff hd).mp (Eq.refl (roundDiv .toEven n d))
  generalize ((roundDiv .toEven n d * d : Nat) - n : Int).natAbs = parts at hdistance hround
  refine ⟨?_, fun htie => ?_⟩
  · have hparts : 2 * parts ≤ d := by omega
    have hparts' : 2 * (parts : ℚ) ≤ d := by exact_mod_cast hparts
    rw [← mul_le_mul_iff_of_pos_right hd', hdistance]
    linarith
  · have hparts' : 2 * (parts : ℚ) = d := by
      rw [← hdistance, htie]
      ring
    have hparts : 2 * parts = d := by exact_mod_cast hparts'
    rcases hround with hless | ⟨-, heven⟩
    · omega
    · rw [Int.even_iff]
      omega

/-- Rounding a quotient of natural numbers is rounding a rational number. -/
theorem roundHalfEven_div (n : Nat) {d : Nat} (hd : 0 < d) :
    roundHalfEven ((n : ℚ) / d) = roundDiv .toEven n d :=
  (isRounded_roundDiv n hd).roundHalfEven_eq

end ChartCatalog.Number
